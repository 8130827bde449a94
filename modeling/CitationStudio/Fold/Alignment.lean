import CitationStudio.Fold.Basic

/-! The smallest edits that turn one text into another, where an edit replaces one stretch.
Characters that are alike on both sides of the stretch allow more than one such edit; they are
listed from the rightmost to the leftmost. -/

namespace CitationStudio

structure Edit where
  start : Nat
  stop : Nat
  inserted : Text
  deriving Repr, DecidableEq, Inhabited

namespace Edit

def apply (e : Edit) (t : Text) : Text := Fold.splice t e.start e.stop e.inserted

def cost (e : Edit) : Nat := e.stop - e.start + e.inserted.length

def commonStart : Text → Text → Nat
  | c :: s, d :: t => if c = d then commonStart s t + 1 else 0
  | _, _ => 0

def commonEnd (s t : Text) : Nat := commonStart s.reverse t.reverse

/-- The edit that keeps so many characters at the start and so many at the end. -/
def keeping (old new : Text) (head tail : Nat) : Edit :=
  ⟨head, old.length - tail, Fold.slice new head (new.length - tail)⟩

/-- All smallest edits that turn the old text into the new one, the rightmost first. They keep
as many characters as can be kept, of which those at the start and those at the end are common
to both texts. -/
def alignments (old new : Text) : List Edit :=
  let head := commonStart old new
  let tail := commonEnd old new
  let kept := min (min old.length new.length) (head + tail)
  ((List.range (head + 1)).reverse.filter fun h => kept - h ≤ tail).map
    fun h => keeping old new h (kept - h)

theorem commonStart_le_left (s t : Text) : commonStart s t ≤ s.length := by
  fun_induction commonStart s t with
  | case1 _ _ _ ih => simpa using ih
  | case2 => simp
  | case3 => simp

theorem take_commonStart (s t : Text) :
    s.take (commonStart s t) = t.take (commonStart s t) := by
  fun_induction commonStart s t with
  | case1 _ _ _ ih => simp [ih]
  | case2 => simp
  | case3 => simp

end Edit

end CitationStudio
