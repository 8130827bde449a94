import CitationStudio.Text.Wrap

/-! Tables between lines, with a title above. A column is as wide as its widest cell. If the
table does not fit, the widest columns give up cells until it does, and their texts are broken
between words. -/

namespace CitationStudio

structure Column where
  header : Text
  /-- Do the cells stand at the right? -/
  right : Bool
  deriving Repr, DecidableEq, Inhabited

structure Table where
  title : Text
  columns : List Column
  rows : List (List Text)
  deriving Repr, DecidableEq, Inhabited

namespace Table

/-- A character that ends a line where the width of a cell is measured. -/
def endsLine (c : Char) : Bool :=
  c = '\n' || c = '\x1c' || c = '\x1d' || c = '\x1e' || c = '\x85' || c = '\u2028' || c = '\u2029'

/-- The width of the widest line of a cell, behind the start of a line in reverse. A tab takes no
cell here. -/
def widest (start : Text) : Text → Nat
  | [] => Text.width start.reverse
  | c :: t =>
    if endsLine c then max (Text.width start.reverse) (widest [] t) else widest (c :: start) t

def cellWidth (t : Text) : Nat := widest [] (Text.dropMoves t)

def cells (t : Table) (i : Nat) : List Text :=
  (t.columns[i]?.map Column.header).toList ++ t.rows.map fun r => (r[i]?).getD []

/-- The widths that the columns would have by themselves, with a space at each side. -/
def wanted (t : Table) (limit : Nat) : List Nat :=
  (List.range t.columns.length).map fun i =>
    min limit (((t.cells i).map cellWidth).foldl max 0 + 2)

/-- Half up to even: `2 * a / b` rounded, halved. -/
def roundedShare (total parts : Nat) : Nat :=
  let q := total / parts
  let twice := 2 * (total % parts)
  if twice < parts then q else if parts < twice then q + 1 else if q % 2 = 0 then q else q + 1

/-- Takes cells from the columns of the greatest width: no more than `most` from one of them. -/
def takeFrom (greatest most : Nat) : Nat → Nat → List Nat → List Nat
  | _, _, [] => []
  | total, parts, w :: ws =>
    if w = greatest ∧ 0 < parts then
      let taken := min most (roundedShare total parts)
      (w - taken) :: takeFrom greatest most (total - taken) (parts - 1) ws
    else w :: takeFrom greatest most total parts ws

def total (ws : List Nat) : Nat := ws.foldr (· + ·) 0

/-- Widths that take at most as many cells together as the limit says. -/
def shrink (limit : Nat) : Nat → List Nat → List Nat
  | 0, ws => ws
  | n + 1, ws =>
    if total ws ≤ limit then ws
    else
      let greatest := ws.foldl max 0
      let second := (ws.filter (· ≠ greatest)).foldl max 0
      let excess := total ws - limit
      let most := min excess (greatest - second)
      if most = 0 then ws
      else shrink limit n (takeFrom greatest most excess (ws.filter (· = greatest)).length ws)

def widths (t : Table) (limit : Nat) : List Nat :=
  let limit := limit - (t.columns.length + 1)
  shrink limit limit (t.wanted limit)

def spaces (n : Nat) : Text := List.replicate n ' '

/-- A line at the left or right of a cell. -/
def placed (width : Nat) (right : Bool) (line : Text) : Text :=
  if right then
    let line := Text.stripEnd line
    spaces (width - Text.width line) ++ line
  else line ++ spaces (width - Text.width line)

def cellLines (width : Nat) (right : Bool) (t : Text) : List Text :=
  (Text.wrap (width - 2) false t).map fun l => ' ' :: placed (width - 2) right l ++ [' ']

def rowLines (t : Table) (ws : List Nat) (edge : Char) (row : List Text) : List Text :=
  let blocks := (t.columns.zip (ws.zip row)).map fun (c, w, cell) => (w, cellLines w c.right cell)
  let height := (blocks.map fun b => b.2.length).foldl max 1
  (List.range height).map fun i =>
    edge :: [edge].intercalate (blocks.map fun (w, ls) => (ls[i]?).getD (spaces w)) ++ [edge]

def rule (ws : List Nat) (left line middle right : Char) : Text :=
  left :: [middle].intercalate (ws.map fun w => List.replicate w line) ++ [right]

def centred (width : Nat) (line : Text) : Text :=
  let line := Text.stripEnd line
  let before := (width - Text.width line) / 2
  spaces before ++ line ++ spaces (width - Text.width line - before)

/-- The lines of a table that may be so many cells wide. -/
def drawn (t : Table) (limit : Nat) : List Text :=
  let ws := t.widths limit
  let whole := total ws + ws.length + 1
  (Text.wrap whole true t.title).map (centred whole) ++
    [rule ws '┏' '━' '┳' '┓'] ++ t.rowLines ws '┃' (t.columns.map Column.header) ++
    [rule ws '┡' '━' '╇' '┩'] ++ t.rows.flatMap (t.rowLines ws '│') ++
    [rule ws '└' '─' '┴' '┘']

end Table

end CitationStudio
