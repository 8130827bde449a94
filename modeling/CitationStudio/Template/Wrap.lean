import CitationStudio.Data.Value
import CitationStudio.Template.Basic

/-! Grouping a run of a template's parts, given by the places of its first and last part. Places
are whole numbers, come in order and lie inside the template; the first of these rules that is
broken is the one that is told. -/

namespace CitationStudio.Template

inductive Bound where
  | first | last
  deriving Repr, DecidableEq, Inhabited

inductive WrapError where
  | notInteger (bound : Bound)
  | inverted
  | outOfRange
  deriving Repr, DecidableEq, Inhabited

def WrapError.message : WrapError → Text
  | .notInteger .first => "Start index must be integer.".toList
  | .notInteger .last => "End index must be integer.".toList
  | .inverted => "End index must be greater than or equal to the start index.".toList
  | .outOfRange => "Start and end index must be within the range of the template size.".toList

def wrap (t : Template) (first last : Int) : Except WrapError Template :=
  if last < first then .error .inverted
  else if first < 0 ∨ (t.size : Int) ≤ last then .error .outOfRange
  else .ok (t.group first.toNat last.toNat)

/-- Places that come as values; only a whole number is a place. -/
def wrapValues (t : Template) (first last : Value) : Except WrapError Template :=
  match first, last with
  | .int a, .int b => t.wrap a b
  | .int _, _ => .error (.notInteger .last)
  | _, _ => .error (.notInteger .first)

theorem wrap_eq_ok_iff {t : Template} {first last : Int} {t' : Template} :
    t.wrap first last = .ok t' ↔
      (0 ≤ first ∧ first ≤ last ∧ last < t.size) ∧ t' = t.group first.toNat last.toNat := by
  unfold wrap
  split
  · simp
    omega
  · split
    · simp
      omega
    · simp only [Except.ok.injEq]
      constructor
      · rintro rfl
        exact ⟨by omega, rfl⟩
      · rintro ⟨_, rfl⟩
        rfl

end CitationStudio.Template
