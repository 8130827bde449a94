import CitationStudio.Text.Basic

/-! Places in a text by line and column, both counted from nought. Any pair of numbers means a
place: lines and columns that there are not stand for the nearest ones there are. -/

namespace CitationStudio

structure Location where
  row : Int
  column : Int
  deriving Repr, DecidableEq, Inhabited

namespace Location

def clamp (n : Int) (most : Nat) : Nat := min n.toNat most

def offset (t : Text) (l : Location) : Nat :=
  let ls := Text.lines t
  let row := clamp l.row (ls.length - 1)
  let before := (ls.take row).flatMap fun line => line ++ ['\n']
  before.length + clamp l.column ((ls[row]?).getD []).length

def ofOffset (t : Text) (offset : Int) : Location :=
  let before := t.take (clamp offset t.length)
  ⟨before.count '\n', (before.reverse.takeWhile (· ≠ '\n')).length⟩

def origin : Location := ⟨0, 0⟩

example : offset "ab\ncd".toList ⟨1, 9⟩ = 5 := by decide +kernel
example : ofOffset "ab\ncd".toList 3 = ⟨1, 0⟩ := by decide +kernel

end Location

end CitationStudio
