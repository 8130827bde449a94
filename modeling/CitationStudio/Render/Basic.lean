import CitationStudio.Compiled.Reader

/-! Rendering a compiled template. Values fill the slots from left to right; a value may be
absent. An absent value drops the group that its slot is directly in, and contributes nothing
outside all groups. Every slot takes its value whether or not its group is kept, so that the
slots after it get the values meant for them. -/

namespace CitationStudio.Render

/-- The value of a slot, or its absence. -/
abbrev Filling := Option Text

/-- What parts make of the values before them: their text, whether a value of their own is
absent, and the values they leave. -/
structure Outcome where
  text : Text
  dropped : Bool
  rest : List Filling
  deriving Repr, DecidableEq

mutual
def part : Part → List Filling → Outcome
  | .literal t, vs => ⟨t, false, vs⟩
  | .slot _, [] => ⟨[], false, []⟩
  | .slot _, none :: vs => ⟨[], true, vs⟩
  | .slot _, some v :: vs => ⟨v, false, vs⟩
  | .group ps, vs =>
    let inner := parts ps vs
    ⟨if inner.dropped then [] else inner.text, false, inner.rest⟩

def parts : List Part → List Filling → Outcome
  | [], vs => ⟨[], false, vs⟩
  | p :: ps, vs =>
    let head := part p vs
    let tail := parts ps head.rest
    ⟨head.text ++ tail.text, head.dropped || tail.dropped, tail.rest⟩
end

inductive Failure where
  | malformed (fault : Compiled.Fault)
  | missing (needed given : Nat)
  deriving Repr, DecidableEq, Inhabited

def Failure.message : Failure → Text
  | .malformed fault => fault.message
  | .missing needed given =>
    "Template has ".toList ++ Text.ofNat needed ++ " placeholder(s) but only ".toList ++
      Text.ofNat given ++ " value(s) were given.".toList

/-- The text of a compiled template with the given values. Values beyond the last slot are
not looked at. -/
def format (template : Text) (values : List Filling) : Except Failure Text :=
  match Compiled.parse [] template with
  | .error fault => .error (.malformed fault)
  | .ok ps =>
    let needed := (Part.slotsAll ps).length
    if values.length < needed then .error (.missing needed values.length)
    else .ok (parts ps values).text

mutual
theorem part_rest (p : Part) (vs : List Filling) : (part p vs).rest = vs.drop p.slots.length := by
  cases p with
  | literal t => simp [part, Part.slots]
  | slot n =>
    cases vs with
    | nil => simp [part, Part.slots]
    | cons v vs => cases v <;> simp [part, Part.slots]
  | group ps => simpa [part, Part.slots] using parts_rest ps vs

/-- Parts take one value for each of their slots. -/
theorem parts_rest (ps : List Part) (vs : List Filling) :
    (parts ps vs).rest = vs.drop (Part.slotsAll ps).length := by
  cases ps with
  | nil => simp [parts, Part.slotsAll]
  | cons p ps =>
    simp only [parts, Part.slotsAll, parts_rest ps, part_rest p, List.drop_drop,
      List.length_append]
end

end CitationStudio.Render
