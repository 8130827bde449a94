import CitationStudio.Render.Given

/-! # Where nothing is given

The slots right in a group are put together, so a group cannot do with a slot that is given nothing,
unless one that is given an absent value drops the group. The search goes through all groups, inner
ones first, and finds a place exactly if there is such a group anywhere among the parts. -/

namespace CitationStudio.Render

/-- A group among parts, at any depth, with the values from those for its slots on. -/
inductive Reaches : List Part → List Given → List Part → List Given → Prop
  | here {qs ps : List Part} {vs : List Given} : Reaches (.group qs :: ps) vs qs vs
  | inside {qs ps rs : List Part} {vs ws : List Given} :
      Reaches qs vs rs ws → Reaches (.group qs :: ps) vs rs ws
  | behind {p : Part} {ps rs : List Part} {vs ws : List Given} :
      Reaches ps (vs.drop p.slots.length) rs ws → Reaches (p :: ps) vs rs ws

/-- One of the slots right among parts is given nothing, and none an absent value. -/
def Lacking (ps : List Part) (vs : List Given) : Prop :=
  some none ∈ ownGiven ps vs ∧ some (some none) ∉ ownGiven ps vs

/-- There is a group, at any depth, one of whose slots is given nothing. -/
def Strays (ps : List Part) (vs : List Given) : Prop :=
  ∃ qs ws, Reaches ps vs qs ws ∧ Lacking qs ws

theorem Reaches.nil {ps qs : List Part} {vs ws : List Given} (h : Reaches ps vs qs ws)
    (hvs : vs = []) : ws = [] := by
  induction h with
  | here => exact hvs
  | inside _ ih => exact ih hvs
  | behind _ ih => exact ih (by rw [hvs, List.drop_nil])

end CitationStudio.Render
