import CitationStudio.Text.Basic

/-! A place in a YAML text, with its line and column, which decide what belongs together. At the
end of the text one sees the null character, which no such text contains. -/

namespace CitationStudio.Yaml

/-- The mark some texts start with. It takes no column. -/
def orderMark : Char := '\ufeff'

/-- The characters a text may be made of. -/
def isAllowed (c : Char) : Bool :=
  let n := c.toNat
  n == 9 || n == 10 || n == 13 || n == 0x85 || (0x20 ≤ n && n ≤ 0x7e) ||
    (0xa0 ≤ n && n ≤ 0xd7ff) || (0xe000 ≤ n && n ≤ 0xfffd) || 0x10000 ≤ n

def isBreak (c : Char) : Bool := c = '\n' || c = '\r' || c = '\x85' || c = '\u2028' || c = '\u2029'

def isEnd (c : Char) : Bool := c = '\x00'

def isBreakOrEnd (c : Char) : Bool := isBreak c || isEnd c

/-- A space, a tab, a break or the end. -/
def isGapOrEnd (c : Char) : Bool := c = ' ' || c = '\t' || isBreakOrEnd c

structure Cursor where
  rest : Text
  index : Nat
  line : Nat
  column : Nat
  deriving Repr, DecidableEq, Inhabited

namespace Cursor

def ofText (t : Text) : Cursor := ⟨t, 0, 0, 0⟩

def peek (c : Cursor) (n : Nat) : Char := (c.rest[n]?).getD '\x00'

def head (c : Cursor) : Char := c.rest.headD '\x00'

def step (c : Cursor) : Cursor :=
  match c.rest with
  | [] => c
  | ch :: rest =>
    if isBreak ch then ⟨rest, c.index + 1, c.line + 1, 0⟩
    else ⟨rest, c.index + 1, c.line, if ch = orderMark then c.column else c.column + 1⟩

def skip (c : Cursor) : Nat → Cursor
  | 0 => c
  | n + 1 => c.step.skip n

/-- The characters up to the first one with the property, and the place of that one. -/
def span (c : Cursor) (stop : Char → Bool) : Text × Cursor :=
  let taken := c.rest.takeWhile fun ch => !stop ch
  (taken, c.skip taken.length)

def skipWhile (c : Cursor) (p : Char → Bool) : Cursor := (c.span fun ch => !p ch).2

/-- Past a line break, with the character it counts as; most breaks count as a line feed. -/
def lineBreak (c : Cursor) : Text × Cursor :=
  if isBreak c.head then
    ([if c.head = '\u2028' ∨ c.head = '\u2029' then c.head else '\n'], c.step)
  else ([], c)

/-- Is this a mark between documents, three of the same character with a gap after them? -/
def isMark (c : Cursor) (mark : Char) : Bool :=
  c.head = mark && c.peek 1 = mark && c.peek 2 = mark && isGapOrEnd (c.peek 3)

/-- At the start of a line, such a mark separates documents. -/
def isSeparator (c : Cursor) : Bool := c.isMark '-' || c.isMark '.'

end Cursor

end CitationStudio.Yaml
