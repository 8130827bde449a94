import CitationStudio.Data.Yaml.Tag

/-! YAML text cut into lexemes. Blocks have no brackets of their own: they start where something
stands further in than what is around it, and end where something stands further out. A key is
known only by the colon behind it, so the reader remembers where a key may have started and puts
the lexemes that were missing there when the colon comes. A key stays on one line and is not
longer than 1024 characters. Where the text cannot be cut any further there is a fault; it comes
before the lexemes that something could still be put in front of. -/

namespace CitationStudio.Yaml

inductive Lexeme where
  | directive (d : Directive)
  | documentStart
  | documentEnd
  | blockList | blockMap | blockEnd
  | openList | closeList | openMap | closeMap
  | entry | comma | key | value
  | alias (name : Text)
  | anchor (name : Text)
  | tag (t : WrittenTag)
  | scalar (plain : Bool) (rs : Runes)
  | fault (f : Failure)
  deriving Repr, DecidableEq, Inhabited

/-- A place where a key may have started: the number of lexemes before it, whether something
has to be a key there, and where it is. -/
structure KeyStart where
  before : Nat
  required : Bool
  place : Cursor
  deriving Repr, DecidableEq, Inhabited

structure Scan where
  place : Cursor
  lexemes : List Lexeme
  /-- How many brackets are open. -/
  depth : Nat
  indent : Int
  indents : List Int
  keyAllowed : Bool
  /-- At most one place for each number of open brackets. -/
  keyStarts : List (Nat × KeyStart)
  deriving Repr, Inhabited

namespace Scan

def start (t : Text) : Scan := ⟨.ofText t, [], 0, -1, [], true, []⟩

def emit (s : Scan) (l : Lexeme) : Scan := { s with lexemes := s.lexemes ++ [l] }

def goto (s : Scan) (c : Cursor) : Scan := { s with place := c }

def allowKey (s : Scan) (b : Bool) : Scan := { s with keyAllowed := b }

/-- Ends the blocks that start right of a column. -/
def unwind (column : Int) : List Int → Scan → Scan
  | [], s => s
  | i :: outer, s =>
    if s.depth = 0 ∧ column < s.indent then
      unwind column outer { s.emit .blockEnd with indent := i, indents := outer }
    else s

def unwindTo (s : Scan) (column : Int) : Scan := unwind column s.indents s

/-- Starts a block at a column that is further in; `place` lexemes come before it. -/
def indentAt (s : Scan) (column place : Nat) (l : Lexeme) : Scan :=
  if s.indent < column then
    { s with
      indents := s.indent :: s.indents
      indent := column
      lexemes := s.lexemes.insertIdx place l }
  else s

/-- Forgets the place where a key may have started. It cannot be forgotten where there has to be
a key. -/
def dropKey (s : Scan) : Option Scan :=
  match s.keyStarts.lookup s.depth with
  | some k =>
    if k.required then none
    else some { s with keyStarts := s.keyStarts.filter fun e => e.1 ≠ s.depth }
  | none => some s

/-- Remembers that a key may start here. -/
def markKey (s : Scan) : Option Scan :=
  if s.keyAllowed then
    s.dropKey.map fun s =>
      let required := s.depth = 0 && s.indent = s.place.column
      { s with keyStarts := (s.depth, ⟨s.lexemes.length, required, s.place⟩) :: s.keyStarts }
  else some s

/-- Is a place too far back for a key to reach this far? -/
def isStale (s : Scan) (k : KeyStart) : Bool :=
  k.place.line ≠ s.place.line || 1024 < s.place.index - k.place.index

/-- Forgets the places from which a key cannot reach this far. -/
def dropStale (s : Scan) : Option Scan :=
  if s.keyStarts.any fun e => s.isStale e.2 && e.2.required then none
  else some { s with keyStarts := s.keyStarts.filter fun e => !s.isStale e.2 }

/-- How many lexemes are settled: nothing can be put in front of any of them. -/
def settled (s : Scan) : Nat :=
  ((s.keyStarts.filter fun e => !s.isStale e.2).map fun e => e.2.before).foldl min s.lexemes.length

/-- Past blanks, comments and breaks. After a break outside brackets a key may start. -/
def skipGaps : Nat → Scan → Scan
  | 0, s => s
  | n + 1, s =>
    let c := s.place.skipWhile (· = ' ')
    let c := if c.head = '#' then c.skipWhile (!isBreakOrEnd ·) else c
    if isBreak c.head then
      skipGaps n { s with place := c.lineBreak.2, keyAllowed := s.keyAllowed || s.depth = 0 }
    else s.goto c

/-- May a key start here, as far as blocks go? -/
def blockKeyAllowed (s : Scan) : Bool := s.depth ≠ 0 || s.keyAllowed

def opening (s : Scan) (l : Lexeme) : Option Scan :=
  s.markKey.map fun s =>
    { s.emit l with depth := s.depth + 1, keyAllowed := true, place := s.place.step }

def closing (s : Scan) (l : Lexeme) : Option Scan :=
  if s.depth = 0 then none
  else s.dropKey.map fun s =>
    { s.emit l with depth := s.depth - 1, keyAllowed := false, place := s.place.step }

def comma (s : Scan) : Option Scan :=
  (s.allowKey true).dropKey.map fun s => (s.emit .comma).goto s.place.step

/-- A mark that starts an entry or a key by itself. -/
def explicitMark (s : Scan) (block l : Lexeme) (keyAfter : Bool) : Option Scan :=
  if !s.blockKeyAllowed then none
  else
    let s := if s.depth = 0 then s.indentAt s.place.column s.lexemes.length block else s
    (s.allowKey keyAfter).dropKey.map fun s => (s.emit l).goto s.place.step

/-- The colon before a value. What it follows turns out to be a key. -/
def valueMark (s : Scan) : Option Scan :=
  match s.keyStarts.lookup s.depth with
  | some k =>
    let s := { s with
      keyStarts := s.keyStarts.filter fun e => e.1 ≠ s.depth
      lexemes := s.lexemes.insertIdx k.before .key }
    let s := if s.depth = 0 then s.indentAt k.place.column k.before .blockMap else s
    some (((s.allowKey false).emit .value).goto s.place.step)
  | none => s.explicitMark .blockMap .value (s.depth = 0)

/-- A mark at the start of a line that ends all blocks. -/
def documentMark (s : Scan) (l : Lexeme) (skip : Cursor → Cursor) : Option Scan :=
  (s.unwindTo (-1)).dropKey.map fun s => ((s.allowKey false).emit l).goto (skip s.place)

def label (s : Scan) (l : Text → Lexeme) : Option Scan :=
  s.markKey.bind fun s =>
    let (name, c) := s.place.step.span (!isNameChar ·)
    if name.isEmpty ∨ !(isGapOrEnd c.head ∨ c.head ∈ "?:,]\x7d%@`".toList) then none
    else some (((s.allowKey false).emit (l name)).goto c)

def tag (s : Scan) : Option Scan :=
  s.markKey.bind fun s =>
    s.place.tag?.map fun (t, c) => ((s.allowKey false).emit (.tag t)).goto c

def quoted (s : Scan) (mark : Char) : Except Failure Scan :=
  match s.markKey with
  | none => .error .malformed
  | some s =>
    (s.place.step.quoted mark (s.place.rest.length + 1)).map fun (rs, c) =>
      ((s.allowKey false).emit (.scalar false rs)).goto c

def block (s : Scan) (fold : Bool) : Option Scan :=
  (s.allowKey true).dropKey.bind fun s =>
    (s.place.step.block? fold s.indent).map fun (t, c) =>
      (s.emit (.scalar false (.ofText t))).goto c

/-- May a plain scalar start with a character, when `next` comes after it? -/
def startsPlain (flow : Bool) (c next : Char) : Bool :=
  !(isGapOrEnd c || c ∈ "-?:,[]\x7b\x7d#&*!|>'\"%@`".toList) ||
    (!isGapOrEnd next && (c = '-' || (!flow && (c = '?' || c = ':'))))

def plain (s : Scan) : Option Scan :=
  s.markKey.map fun s =>
    let (t, c, ended) := s.place.plain (s.depth ≠ 0) (s.indent + 1) (s.place.rest.length + 1)
    ((s.allowKey ended).emit (.scalar true (.ofText t))).goto c

/-- A directive, which ends all blocks. -/
def directive (s : Scan) : Except Failure Scan :=
  match (s.unwindTo (-1)).dropKey with
  | none => .error .malformed
  | some s =>
    s.place.step.directive.map fun (d, c) => ((s.allowKey false).emit (.directive d)).goto c

def orMalformed (s : Option Scan) : Except Failure Scan :=
  match s with
  | some s => .ok s
  | none => .error .malformed

def lexeme (s : Scan) : Except Failure Scan :=
  let c := s.place
  let ch := c.head
  let next := c.peek 1
  let flow : Bool := s.depth ≠ 0
  let spaced := isGapOrEnd next
  if c.column = 0 ∧ ch = '%' then s.directive
  else if ch = '\'' ∨ ch = '"' then s.quoted ch
  else orMalformed (
    if c.column = 0 ∧ c.isMark '-' then s.documentMark .documentStart fun c => c.skip 3
    else if c.column = 0 ∧ c.isMark '.' then s.documentMark .documentEnd fun c => c.skip 3
    else if ch = '[' then s.opening .openList
    else if ch = '{' then s.opening .openMap
    else if ch = ']' then s.closing .closeList
    else if ch = '}' then s.closing .closeMap
    else if ch = ',' then s.comma
    else if ch = '-' ∧ spaced then s.explicitMark .blockList .entry true
    else if ch = '?' ∧ (flow ∨ spaced) then s.explicitMark .blockMap .key !flow
    else if ch = ':' ∧ (flow ∨ spaced) then s.valueMark
    else if ch = '*' then s.label .alias
    else if ch = '&' then s.label .anchor
    else if ch = '!' then s.tag
    else if ch = '|' ∧ !flow then s.block false
    else if ch = '>' ∧ !flow then s.block true
    else if startsPlain flow ch next then s.plain
    else none)

/-- The next lexeme, if there is one, and the end of the blocks that end before it. -/
def advance (s : Scan) : Except Failure (Scan × Bool) :=
  match (s.skipGaps (s.place.rest.length + 1)).dropStale with
  | none => .error .malformed
  | some s =>
    let s := s.unwindTo s.place.column
    if isEnd s.place.head then (orMalformed (s.unwindTo (-1)).dropKey).map fun s => (s, true)
    else s.lexeme.map fun s => (s, false)

/-- All lexemes from here on. At most one is read for each character that is left. -/
def run : Nat → Scan → List Lexeme
  | 0, s => s.lexemes
  | n + 1, s =>
    match s.advance with
    | .ok (s, true) => s.lexemes
    | .ok (s, false) => run n s
    | .error f => s.lexemes.take s.settled ++ [.fault f]

end Scan

/-- The lexemes of a text. What is not all made of allowed characters is a fault from the start. -/
def lexemes (t : Text) : List Lexeme :=
  if t.all isAllowed then
    let t := if t.head? = some orderMark then t.drop 1 else t
    (Scan.start t).run (t.length + 1)
  else [.fault .malformed]

end CitationStudio.Yaml
