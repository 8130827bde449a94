import CitationStudio.Data.Yaml.Cursor
import CitationStudio.Data.Yaml.Failure

/-! The contents of scalars: plain ones, ones between quotes, and blocks. A scalar may go over
several lines. Except in a block, single breaks between lines count as a space and blank lines
as line feeds. Each loop is bounded by the number of characters that are left. -/

namespace CitationStudio.Yaml

namespace Cursor

/-- The breaks before the next text, the blanks around them being dropped. With `atSeparator` a
mark between documents at the start of a line gives none. -/
def breaks (blank : Char → Bool) : Nat → Cursor → Option (Text × Cursor)
  | 0, c => some ([], c)
  | n + 1, c =>
    if c.column = 0 && c.isSeparator then none
    else
      let c := c.skipWhile blank
      if isBreak c.head then
        let (b, c) := c.lineBreak
        (breaks blank n c).map fun (bs, c) => (b ++ bs, c)
      else some ([], c)

/-- What a break and the breaks after it count as. -/
def folded (first rest : Text) : Text :=
  if first ≠ ['\n'] then first ++ rest else if rest.isEmpty then [' '] else rest

/-- Does a plain scalar stop before a character, when `next` comes after it? -/
def plainStops (flow : Bool) (c next : Char) : Bool :=
  isGapOrEnd c ||
    (c = ':' && (isGapOrEnd next || (flow && next ∈ [',', '[', ']', '{', '}']))) ||
    (flow && c ∈ [',', '?', '[', ']', '{', '}'])

/-- The number of characters before a plain scalar stops. -/
def plainRun (flow : Bool) : Text → Nat
  | [] => 0
  | c :: t => if plainStops flow c (t.headD '\x00') then 0 else plainRun flow t + 1

/-- What stands between two runs of a plain scalar, the place after it, and whether a line ended.
Nothing stands there if a mark between documents comes next. -/
def plainGap (c : Cursor) : Text × Cursor × Bool :=
  let (blanks, c) := c.span (· ≠ ' ')
  if isBreak c.head then
    let (first, c) := c.lineBreak
    match breaks (· = ' ') (c.rest.length + 1) c with
    | some (rest, c) => (folded first rest, c, true)
    | none => ([], c, true)
  else (blanks, c, false)

/-- A plain scalar that has to stay at or right of a column, the place after it, and whether a
line ended behind its last run. -/
def plain (flow : Bool) (indent : Int) : Nat → Cursor → Text × Cursor × Bool
  | 0, c => ([], c, false)
  | n + 1, c =>
    let length := if c.head = '#' then 0 else plainRun flow c.rest
    if length = 0 then ([], c, false)
    else
      let run := c.rest.take length
      let (gap, c, ended) := (c.skip length).plainGap
      if gap.isEmpty ∨ c.head = '#' ∨ (!flow ∧ (c.column : Int) < indent) then (run, c, ended)
      else
        match plain flow indent n c with
        | ([], c', _) => (run, c', ended)
        | (more, c', ended') => (run ++ gap ++ more, c', ended')

def hexValue? (c : Char) : Option Nat :=
  if '0' ≤ c ∧ c ≤ '9' then some (c.toNat - 48)
  else if 'a' ≤ c ∧ c ≤ 'f' then some (c.toNat - 87)
  else if 'A' ≤ c ∧ c ≤ 'F' then some (c.toNat - 55)
  else none

def hexRune (digits : Text) (count : Nat) : Except Failure Rune :=
  match digits.mapM hexValue? with
  | none => .error .malformed
  | some ds =>
    let n := ds.foldl (fun n d => 16 * n + d) 0
    if digits.length < count then .error .malformed
    else if 0x7fffffff < n then .error .hugeCode
    else if 0x10ffff < n then .error .noCharacter
    else .ok (.ofCode n)

/-- The characters that one letter after a backslash stands for. -/
def escapes : List (Char × Char) :=
  [('0', '\x00'), ('a', '\x07'), ('b', '\x08'), ('t', '\t'), ('\t', '\t'), ('n', '\n'),
    ('v', '\x0b'), ('f', '\x0c'), ('r', '\r'), ('e', '\x1b'), (' ', ' '), ('"', '"'),
    ('\\', '\\'), ('/', '/'), ('N', '\x85'), ('_', '\xa0'), ('L', '\u2028'), ('P', '\u2029')]

/-- How many digits follow a letter after which a code stands. -/
def codeWidths : List (Char × Nat) := [('x', 2), ('u', 4), ('U', 8)]

def escape (c : Cursor) : Except Failure (Runes × Cursor) :=
  match escapes.lookup c.head with
  | some e => .ok ([.char e], c.step)
  | none =>
    if isBreak c.head then
      let c := c.lineBreak.2
      match breaks (fun ch => ch = ' ' || ch = '\t') (c.rest.length + 1) c with
      | some (bs, c) => .ok (.ofText bs, c)
      | none => .error .malformed
    else
      match codeWidths.lookup c.head with
      | none => .error .malformed
      | some width =>
        let c := c.step
        (hexRune (c.rest.take width) width).map fun r => ([r], c.skip width)

/-- The blanks and breaks inside a quoted scalar. -/
def quotedGap (c : Cursor) : Option (Text × Cursor) :=
  let (blanks, c) := c.span fun ch => !(ch = ' ' || ch = '\t')
  if isEnd c.head then none
  else if isBreak c.head then
    let (first, c) := c.lineBreak
    (breaks (fun ch => ch = ' ' || ch = '\t') (c.rest.length + 1) c).map fun (rest, c) =>
      (folded first rest, c)
  else some (blanks, c)

/-- A quoted scalar from behind its first quote, and the place after its last one. -/
def quoted (mark : Char) : Nat → Cursor → Except Failure (Runes × Cursor)
  | 0, _ => .error .malformed
  | n + 1, c =>
    let more (rs : Runes) (c : Cursor) : Except Failure (Runes × Cursor) :=
      (quoted mark n c).map fun (rs', c) => (rs ++ rs', c)
    let ch := c.head
    if isGapOrEnd ch then
      match c.quotedGap with
      | some (gap, c) => more (.ofText gap) c
      | none => .error .malformed
    else if ch = mark then
      if mark = '\'' ∧ c.peek 1 = '\'' then more [.char '\''] (c.skip 2) else .ok ([], c.step)
    else if ch = '\\' ∧ mark = '"' then
      match c.step.escape with
      | .ok (rs, c) => more rs c
      | .error f => .error f
    else more [.char ch] c.step

/-- The start of a block: whether its last breaks are kept (yes, no, or just one), how much
further in it is than what it belongs to, if that is said, and the place of its first line. -/
def blockHead? (c : Cursor) : Option (Option Bool × Option Nat × Cursor) :=
  let chomp (c : Cursor) : Option Bool × Cursor :=
    if c.head = '+' then (some true, c.step)
    else if c.head = '-' then (some false, c.step) else (none, c)
  let deeper (c : Cursor) : Option Nat × Cursor :=
    if c.head.isDigit then (some (c.head.toNat - 48), c.step) else (none, c)
  let (kept, increment, c) :=
    match chomp c with
    | (some b, c) => let (i, c) := deeper c; (some b, i, c)
    | (none, c) =>
      match deeper c with
      | (some i, c) => let (b, c) := chomp c; (b, some i, c)
      | (none, c) => (none, none, c)
  if increment = some 0 ∨ !(c.head = ' ' || isBreakOrEnd c.head) then none
  else
    let c := c.skipWhile (· = ' ')
    let c := if c.head = '#' then c.skipWhile (!isBreakOrEnd ·) else c
    if isBreakOrEnd c.head then some (kept, increment, c.lineBreak.2) else none

/-- The breaks before the first line of a block, and the deepest column of those lines. -/
def blockMargin : Nat → Cursor → Nat → Text × Nat × Cursor
  | 0, c, deepest => ([], deepest, c)
  | n + 1, c, deepest =>
    if c.head = ' ' then
      let c := c.step
      blockMargin n c (max deepest c.column)
    else if isBreak c.head then
      let (b, c) := c.lineBreak
      let (bs, deepest, c) := blockMargin n c deepest
      (b ++ bs, deepest, c)
    else ([], deepest, c)

def indentTo (indent : Nat) : Nat → Cursor → Cursor
  | 0, c => c
  | n + 1, c => if c.column < indent ∧ c.head = ' ' then indentTo indent n c.step else c

/-- The breaks before the next line of a block. -/
def blockBreaks (indent : Nat) : Nat → Cursor → Text × Cursor
  | 0, c => ([], c)
  | n + 1, c =>
    let c := indentTo indent indent c
    if isBreak c.head then
      let (b, c) := c.lineBreak
      let (bs, c) := blockBreaks indent n c
      (b ++ bs, c)
    else ([], c)

/-- The lines of a block: its text, its last break, the breaks after that one. -/
def blockLines (fold : Bool) (indent : Nat) : Nat → Text → Cursor → Text × Text × Text × Cursor
  | 0, before, c => ([], [], before, c)
  | n + 1, before, c =>
    if c.column = indent ∧ !isEnd c.head then
      let solid := !(c.head = ' ' || c.head = '\t')
      let (line, c) := c.span isBreakOrEnd
      let (b, c) := c.lineBreak
      let (bs, c) := blockBreaks indent (c.rest.length + 1) c
      if c.column = indent ∧ !isEnd c.head then
        let joint :=
          if fold ∧ b = ['\n'] ∧ solid ∧ !(c.head = ' ' || c.head = '\t') then
            (if bs.isEmpty then [' '] else [])
          else b
        let (more, last, after, c) := blockLines fold indent n bs c
        (before ++ line ++ joint ++ more, last, after, c)
      else (before ++ line, b, bs, c)
    else ([], [], before, c)

/-- A block from behind its first mark, inside what starts at a column. -/
def block? (fold : Bool) (outer : Int) (c : Cursor) : Option (Text × Cursor) :=
  match c.blockHead? with
  | none => none
  | some (kept, increment, c) =>
    let least := (max (outer + 1) 1).toNat
    let fuel := c.rest.length + 1
    let (before, indent, c) :=
      match increment with
      | some i =>
        let indent := least + i - 1
        let (bs, c) := blockBreaks indent fuel c
        (bs, indent, c)
      | none =>
        let (bs, deepest, c) := blockMargin fuel c 0
        (bs, max least deepest, c)
    let (text, last, after, c) := blockLines fold indent (c.rest.length + 1) before c
    let text := if kept = some false then text else text ++ last
    some (if kept = some true then text ++ after else text, c)

end Cursor

end CitationStudio.Yaml
