import CitationStudio.Render.Basic

/-! Values some of which are not even absent: nothing was given for them. Where the slots of a group
are put together, such a value has no place, unless an absent one drops the group anyway; outside
all groups it counts as absent. The names of slots are put together by the same rule. -/

namespace CitationStudio.Render

/-- What is given for a slot, if anything is. -/
abbrev Given := Option Filling

/-- What the parts that are slots are given, in the places of all parts. -/
def ownGiven : List Part → List Given → List (Option Given)
  | [], _ => []
  | .slot _ :: ps, [] => none :: ownGiven ps []
  | .slot _ :: ps, v :: vs => some v :: ownGiven ps vs
  | p :: ps, vs => none :: ownGiven ps (vs.drop p.slots.length)

/-- The place of the first slot among parts that is given nothing, unless one is given an absent
value. -/
def ownStray? (ps : List Part) (vs : List Given) : Option Nat :=
  let own := ownGiven ps vs
  if own.contains (some (some none)) then none else own.findIdx? (· == some none)

mutual
/-- The place, in the group it is in, of the first slot that is given nothing where a value is
needed. An inner group comes before the one around it. -/
def stray? : Part → List Given → Option Nat
  | .group ps, vs => (strayAll? ps vs).or (ownStray? ps vs)
  | _, _ => none

def strayAll? : List Part → List Given → Option Nat
  | [], _ => none
  | p :: ps, vs => (stray? p vs).or (strayAll? ps (vs.drop p.slots.length))
end

/-- What is said about a text that has to be put together of texts and of something else. -/
def strayMessage (place : Nat) : Text :=
  "sequence item ".toList ++ Text.ofNat place ++ ": expected str instance, list found".toList

end CitationStudio.Render
