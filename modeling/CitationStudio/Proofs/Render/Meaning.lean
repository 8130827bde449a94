import CitationStudio.Render.Basic
import CitationStudio.Proofs.Compiled.RoundTrip

/-! # What rendering means

Rendering hands the values on from part to part, and drops groups while it does so. What comes out
can be said without handing anything on: the slot with so many slots before it takes the value at
that place, whatever becomes of the groups. `meaning` says this part by part, and the reader of
values agrees with it wherever it stands. -/

namespace CitationStudio.Render

open Part (slotsAll)

/-- Is the value of a slot among the parts absent? Slots inside groups do not count. The first
slot of the parts is at `place` among all slots. -/
def lacks (values : List Filling) : Nat → List Part → Bool
  | _, [] => false
  | place, .slot _ :: ps => values[place]? == some none || lacks values (place + 1) ps
  | place, p :: ps => lacks values (place + p.slots.length) ps

mutual
/-- The text of a part, whose first slot is at `place`. A slot has the text of the value at its
place; a group has the texts of its parts, or none if the value of one of its own slots is
absent. -/
def meaning (values : List Filling) : Nat → Part → Text
  | _, .literal t => t
  | place, .slot _ => values[place]?.join.getD []
  | place, .group ps => if lacks values place ps then [] else meaningAll values place ps

def meaningAll (values : List Filling) : Nat → List Part → Text
  | _, [] => []
  | place, p :: ps => meaning values place p ++ meaningAll values (place + p.slots.length) ps
end

theorem lacks_cons (values : List Filling) (place : Nat) (p : Part) (ps : List Part) :
    lacks values place (p :: ps) =
      (lacks values place [p] || lacks values (place + p.slots.length) ps) := by
  cases p with
  | literal t => simp [lacks]
  | slot n => simp [lacks, Part.slots]
  | group qs => simp [lacks]

theorem slot_eq_meaning (n : Text) (values : List Filling) (place : Nat) :
    part (.slot n) (values.drop place) =
      ⟨meaning values place (.slot n), lacks values place [.slot n], values.drop (place + 1)⟩ := by
  have hv : values[place]? = (values.drop place)[0]? := by simp
  have hr : values.drop (place + 1) = (values.drop place).tail := by simp
  rw [hr, meaning, lacks, lacks, hv]
  rcases values.drop place with _ | ⟨_ | v, vs⟩ <;> rfl

mutual
/-- Wherever the values have got to, a part makes of them what it means. -/
theorem part_eq_meaning : ∀ (p : Part) (values : List Filling) (place : Nat),
    part p (values.drop place) =
      ⟨meaning values place p, lacks values place [p], values.drop (place + p.slots.length)⟩
  | .literal _, _, _ => rfl
  | .slot n, values, place => slot_eq_meaning n values place
  | .group ps, values, place => by
    simp only [part, parts_eq_meaning ps values place, meaning, lacks, Part.slots]

theorem parts_eq_meaning : ∀ (ps : List Part) (values : List Filling) (place : Nat),
    parts ps (values.drop place) = ⟨meaningAll values place ps, lacks values place ps,
      values.drop (place + (slotsAll ps).length)⟩
  | [], _, _ => rfl
  | p :: ps, values, place => by
    simp only [parts, part_eq_meaning p values place,
      parts_eq_meaning ps values (place + p.slots.length), meaningAll, lacks_cons values place p ps,
      slotsAll, List.length_append, Nat.add_assoc]
end

/-! ## What a part looks at -/

/-- The values are the same at so many places, from `place` on. -/
def Agree (values values' : List Filling) (place count : Nat) : Prop :=
  ∀ k, place ≤ k → k < place + count → values[k]? = values'[k]?

theorem Agree.left {values values' : List Filling} {place m n : Nat}
    (h : Agree values values' place (m + n)) : Agree values values' place m :=
  fun k hk hl => h k hk (by omega)

theorem Agree.right {values values' : List Filling} {place m n : Nat}
    (h : Agree values values' place (m + n)) : Agree values values' (place + m) n :=
  fun k hk hl => h k (by omega) (by omega)

theorem lacks_congr {values values' : List Filling} (ps : List Part) {place : Nat}
    (h : Agree values values' place (slotsAll ps).length) :
    lacks values place ps = lacks values' place ps := by
  induction ps generalizing place with
  | nil => rfl
  | cons p ps ih =>
    rw [slotsAll, List.length_append] at h
    rw [lacks_cons, lacks_cons values', ih h.right]
    cases p with
    | literal t => rfl
    | slot n => simp only [lacks, h.left place (Nat.le_refl _) (by simp [Part.slots])]
    | group qs => rfl

mutual
/-- A part looks at the values of its own slots only. -/
theorem meaning_congr {values values' : List Filling} : ∀ (p : Part) {place : Nat},
    Agree values values' place p.slots.length → meaning values place p = meaning values' place p
  | .literal _, _, _ => rfl
  | .slot n, place, h => by
    simp only [meaning, h place (Nat.le_refl _) (by simp [Part.slots])]
  | .group ps, place, h => by
    rw [Part.slots] at h
    simp only [meaning, lacks_congr ps h, meaningAll_congr ps h]

theorem meaningAll_congr {values values' : List Filling} : ∀ (ps : List Part) {place : Nat},
    Agree values values' place (slotsAll ps).length →
      meaningAll values place ps = meaningAll values' place ps
  | [], _, _ => rfl
  | p :: ps, place, h => by
    rw [slotsAll, List.length_append] at h
    simp only [meaningAll, meaning_congr p h.left, meaningAll_congr ps h.right]
end

theorem agree_append (values surplus : List Filling) {count : Nat} (h : count ≤ values.length) :
    Agree (values ++ surplus) values 0 count :=
  fun k _ hk => List.getElem?_append_left (by omega)

/-! ## Rendering -/

theorem format_of_parse_error {template : Text} {fault : Compiled.Fault}
    (h : Compiled.parse [] template = .error fault) (values : List Filling) :
    format template values = .error (.malformed fault) := by
  simp only [format, h]

theorem format_of_parse_ok {template : Text} {ps : List Part}
    (h : Compiled.parse [] template = .ok ps) (values : List Filling) :
    format template values =
      if values.length < (slotsAll ps).length
      then .error (.missing (slotsAll ps).length values.length)
      else .ok (meaningAll values 0 ps) := by
  have hm : (parts ps values).text = meaningAll values 0 ps :=
    congrArg Outcome.text (parts_eq_meaning ps values 0)
  simp only [format, h, hm]

/-- **Rendering is its meaning.** It fails exactly on the templates that cannot be read and on those
with more slots than there are values. Otherwise what comes out is what the parts mean, each slot
taking the value at its own place, and values to spare change nothing. -/
theorem format_eq_meaning (template : Text) (values : List Filling) :
    ((∃ failure, format template values = .error failure) ↔
      (∃ fault, Compiled.parse [] template = .error fault) ∨
        ∃ ps, Compiled.parse [] template = .ok ps ∧ values.length < (slotsAll ps).length) ∧
    ∀ ps, Compiled.parse [] template = .ok ps → (slotsAll ps).length ≤ values.length →
      format template values = .ok (meaningAll values 0 ps) ∧
        ∀ surplus, format template (values ++ surplus) = format template values := by
  constructor
  · cases h : Compiled.parse [] template with
    | error fault =>
      exact iff_of_true ⟨_, format_of_parse_error h values⟩ (.inl ⟨fault, rfl⟩)
    | ok ps =>
      rw [format_of_parse_ok h values]
      split
      · rename_i hlt
        exact iff_of_true ⟨_, rfl⟩ (.inr ⟨ps, rfl, hlt⟩)
      · rename_i hge
        refine iff_of_false (by rintro ⟨_, hf⟩; cases hf) ?_
        rintro (⟨_, hf⟩ | ⟨qs, hq, hlt⟩)
        · cases hf
        · cases hq
          exact hge hlt
  · intro ps h hlen
    have hvalues : format template values = .ok (meaningAll values 0 ps) := by
      rw [format_of_parse_ok h, if_neg (Nat.not_lt.2 hlen)]
    refine ⟨hvalues, fun surplus => ?_⟩
    have hmore : ¬ (values ++ surplus).length < (slotsAll ps).length := by
      rw [List.length_append]
      omega
    rw [hvalues, format_of_parse_ok h, if_neg hmore,
      meaningAll_congr ps (agree_append values surplus hlen)]

/-- The inner group is dropped; the slot after it takes the value that is meant for it. -/
theorem format_eq_meaning_dropped :
    let ps : List Part := [.group [.slot ['A', 'r', 'g', '1'],
      .group [.literal [','], .slot ['A', 'r', 'g', '2']]], .slot ['A', 'r', 'g', '3']]
    let values : List Filling := [some ['x'], none, some ['y']]
    Compiled.parse [] (Part.compiledAll ps) = .ok ps ∧ (slotsAll ps).length ≤ values.length ∧
      format (Part.compiledAll ps) values = .ok ['x', 'y'] :=
  let ps : List Part := [.group [.slot ['A', 'r', 'g', '1'],
    .group [.literal [','], .slot ['A', 'r', 'g', '2']]], .slot ['A', 'r', 'g', '3']]
  let values : List Filling := [some ['x'], none, some ['y']]
  have hp : Compiled.parse [] (Part.compiledAll ps) = .ok ps :=
    Compiled.parse_compiled (by decide) []
  have hl : (slotsAll ps).length ≤ values.length := by decide
  ⟨hp, hl, ((format_eq_meaning (Part.compiledAll ps) values).2 ps hp hl).1⟩

end CitationStudio.Render
