import CitationStudio.Render.Basic

/-! # Withholding values

Some of the values are withheld: they are absent where they were not. Every slot still takes the
value at its own place, so the two ways to render go through the parts side by side. A group that
was dropped is dropped again, and another one may be; so withholding only takes text away, wherever
in the template it is felt. -/

namespace CitationStudio.Render

/-- The second values are the first ones, apart from some that are absent. -/
inductive Withheld : List Filling → List Filling → Prop
  | nil : Withheld [] []
  | cons {v w : Filling} {vs ws : List Filling} :
      w = v ∨ w = none → Withheld vs ws → Withheld (v :: vs) (w :: ws)

theorem Withheld.length_eq {vs ws : List Filling} (h : Withheld vs ws) :
    ws.length = vs.length := by
  induction h with
  | nil => rfl
  | cons _ _ ih => rw [List.length_cons, List.length_cons, ih]

/-- Fillings that differ in what is absent only. -/
theorem withheld_map {α : Type} {xs : List α} {f g : α → Filling}
    (h : ∀ x ∈ xs, g x = f x ∨ g x = none) : Withheld (xs.map f) (xs.map g) := by
  induction xs with
  | nil => exact .nil
  | cons x xs ih =>
    exact .cons (h x List.mem_cons_self) (ih fun y hy => h y (List.mem_cons_of_mem x hy))

/-- One outcome is another with some values withheld: it has less text, and is dropped if the other
is. -/
structure Outcome.Less (less more : Outcome) : Prop where
  text : less.text.Sublist more.text
  dropped : more.dropped = true → less.dropped = true
  rest : Withheld more.rest less.rest

/-- A group adds its text or nothing, whichever of the two it added before. -/
theorem Outcome.Less.grouped {less more : Outcome} (h : less.Less more) :
    (if less.dropped then [] else less.text).Sublist (if more.dropped then [] else more.text) := by
  cases hless : less.dropped with
  | true => exact List.nil_sublist _
  | false =>
    cases hmore : more.dropped with
    | true => exact absurd ((h.dropped hmore).symm.trans hless) nofun
    | false => exact h.text

mutual
/-- **Withholding takes text away** from every part, and no value from the parts after it. -/
theorem part_withheld : ∀ (p : Part) {vs ws : List Filling}, Withheld vs ws →
    (part p ws).Less (part p vs)
  | .literal t, _, _, h => ⟨List.Sublist.refl t, id, h⟩
  | .slot _, _, _, .nil => ⟨List.Sublist.refl [], id, .nil⟩
  | .slot _, none :: _, _, .cons hw h => by
    obtain rfl : _ = none := hw.elim id id
    exact ⟨List.Sublist.refl [], id, h⟩
  | .slot _, some v :: _, _, .cons hw h => by
    rcases hw with rfl | rfl
    · exact ⟨List.Sublist.refl v, id, h⟩
    · exact ⟨List.nil_sublist v, nofun, h⟩
  | .group ps, _, _, h => ⟨(parts_withheld ps h).grouped, id, (parts_withheld ps h).rest⟩

theorem parts_withheld : ∀ (ps : List Part) {vs ws : List Filling}, Withheld vs ws →
    (parts ps ws).Less (parts ps vs)
  | [], _, _, h => ⟨List.Sublist.refl [], id, h⟩
  | p :: ps, _, _, h => by
    have hhead := part_withheld p h
    have htail := parts_withheld ps hhead.rest
    refine ⟨hhead.text.append htail.text, fun hd => ?_, htail.rest⟩
    rcases (Bool.or_eq_true ..).mp hd with hd | hd
    · exact (Bool.or_eq_true ..).mpr (.inl (hhead.dropped hd))
    · exact (Bool.or_eq_true ..).mpr (.inr (htail.dropped hd))
end

/-- With values withheld a template fails as it did, or what comes out is some of what came out. -/
theorem format_withheld {values fewer : List Filling} (h : Withheld values fewer)
    (template : Text) :
    (∃ failure, format template values = .error failure ∧
      format template fewer = .error failure) ∨
    ∃ text less, format template values = .ok text ∧ format template fewer = .ok less ∧
      less.Sublist text := by
  unfold format
  rw [h.length_eq]
  cases Compiled.parse [] template with
  | error fault => exact .inl ⟨_, rfl, rfl⟩
  | ok ps =>
    by_cases hlt : values.length < (Part.slotsAll ps).length
    · exact .inl ⟨_, if_pos hlt, if_pos hlt⟩
    · exact .inr ⟨_, _, if_neg hlt, if_neg hlt, (parts_withheld ps h).text⟩

end CitationStudio.Render
