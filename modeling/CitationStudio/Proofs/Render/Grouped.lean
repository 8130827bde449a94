import CitationStudio.Proofs.Render.Shown
import CitationStudio.Proofs.Template.Undo

/-! # Rendering what has been grouped

A group takes the values that its parts would take without it, so everything after it is rendered
as before. Inside it the only difference is what an absent value does: in a group it drops the
parts beside it, outside it adds nothing. To group a run of parts is therefore seen by a reader
only if the value of a slot of the run itself is absent. -/

namespace CitationStudio.Render

open Part (slotsAll slotsAll_append grouped take_stretch)

/-- Parts make of the values what the first of them make, and then the others. -/
theorem parts_append (ps qs : List Part) (vs : List Filling) :
    let first := parts ps vs
    let others := parts qs (vs.drop (slotsAll ps).length)
    parts (ps ++ qs) vs =
      ⟨first.text ++ others.text, first.dropped || others.dropped, others.rest⟩ := by
  induction ps generalizing vs with
  | nil => rfl
  | cons p ps ih =>
    simp only [List.cons_append, parts, ih, part_rest, slotsAll, List.length_append,
      List.drop_drop, List.append_assoc, Bool.or_assoc]

/-- Only a slot drops the group around it. -/
theorem part_dropped_iff {p : Part} {vs : List Filling} :
    (part p vs).dropped = true ↔ (∃ name, p = .slot name) ∧ vs[0]? = some none := by
  cases p with
  | literal t => simp [part]
  | slot n => rcases vs with _ | ⟨_ | v, vs⟩ <;> simp [part]
  | group ps => simp [part]

/-! ## Stretches of parts -/

/-- The text of the parts from the place `first` up to the place `stop`, each slot with the value
that is meant for it. -/
def between (ps : List Part) (vs : List Filling) (first stop : Nat) : Text :=
  (parts ((ps.take stop).drop first) (vs.drop (slotsAll (ps.take first)).length)).text

/-- Is the part at the place a slot, and its value absent? -/
def Unfilled (ps : List Part) (vs : List Filling) (place : Nat) : Prop :=
  ∃ name, ps[place]? = some (.slot name) ∧ vs[(slotsAll (ps.take place)).length]? = some none

theorem unfilled_cons_zero (p : Part) (ps : List Part) (vs : List Filling) :
    Unfilled (p :: ps) vs 0 ↔ (part p vs).dropped = true := by
  simp [Unfilled, part_dropped_iff, slotsAll]

theorem unfilled_cons_succ {p : Part} {ps : List Part} {vs : List Filling} {place : Nat} :
    Unfilled (p :: ps) vs (place + 1) ↔ Unfilled ps (vs.drop p.slots.length) place := by
  simp [Unfilled, slotsAll]

/-- Parts drop the group around them if one of them is a slot without a value. -/
theorem parts_dropped_iff {ps : List Part} {vs : List Filling} :
    (parts ps vs).dropped = true ↔ ∃ place, Unfilled ps vs place := by
  induction ps generalizing vs with
  | nil => simp [parts, Unfilled]
  | cons p ps ih =>
    simp only [parts, Bool.or_eq_true, ih, part_rest, ← unfilled_cons_succ,
      ← unfilled_cons_zero p ps]
    constructor
    · rintro (h | ⟨place, h⟩)
      · exact ⟨0, h⟩
      · exact ⟨place + 1, h⟩
    · rintro ⟨_ | place, h⟩
      · exact .inl h
      · exact .inr ⟨place, h⟩

theorem stretch_append {α : Type} (xs : List α) {first mid stop : Nat} (h : first ≤ mid)
    (hs : mid ≤ stop) :
    (xs.take mid).drop first ++ (xs.take stop).drop mid = (xs.take stop).drop first := by
  have hall : xs.take first ++ ((xs.take mid).drop first ++ (xs.take stop).drop mid) =
      xs.take first ++ (xs.take stop).drop first := by
    rw [← List.append_assoc, take_stretch xs h, take_stretch xs hs,
      take_stretch xs (Nat.le_trans h hs)]
  exact List.append_cancel_left hall

theorem drop_stretch (ps : List Part) (vs : List Filling) {first stop : Nat} (h : first ≤ stop) :
    (vs.drop (slotsAll (ps.take first)).length).drop
        (slotsAll ((ps.take stop).drop first)).length =
      vs.drop (slotsAll (ps.take stop)).length := by
  rw [List.drop_drop, ← List.length_append, ← slotsAll_append, take_stretch ps h]

theorem unfilled_stretch {ps : List Part} {vs : List Filling} {first stop place : Nat} :
    Unfilled ((ps.take stop).drop first) (vs.drop (slotsAll (ps.take first)).length) place ↔
      first + place < stop ∧ Unfilled ps vs (first + place) := by
  unfold Unfilled
  rw [List.getElem?_drop]
  by_cases hlt : first + place < stop
  · have htake : ((ps.take stop).drop first).take place = (ps.take (first + place)).drop first := by
      rw [List.take_drop, List.take_take, Nat.min_eq_left (Nat.le_of_lt hlt)]
    rw [List.getElem?_take_of_lt hlt, htake, List.getElem?_drop, ← List.length_append,
      ← slotsAll_append, take_stretch ps (Nat.le_add_right first place)]
    exact (and_iff_right hlt).symm
  · have hnone : (ps.take stop)[first + place]? = none :=
      List.getElem?_eq_none (Nat.le_trans (List.length_take_le stop ps) (Nat.not_lt.1 hlt))
    rw [hnone]
    exact iff_of_false (fun ⟨_, hname, _⟩ => nomatch hname) fun hin => hlt hin.1

theorem between_all (ps : List Part) (vs : List Filling) :
    between ps vs 0 ps.length = (parts ps vs).text := by
  simp [between, slotsAll]

theorem between_append (ps : List Part) (vs : List Filling) {first mid stop : Nat}
    (h : first ≤ mid) (hs : mid ≤ stop) :
    between ps vs first mid ++ between ps vs mid stop = between ps vs first stop := by
  rw [between, between, between, ← stretch_append ps h hs, parts_append, drop_stretch ps vs h]

theorem parts_text_eq (ps : List Part) (vs : List Filling) {first last : Nat} (h : first ≤ last)
    (hl : last < ps.length) : (parts ps vs).text = between ps vs 0 first ++
      (between ps vs first (last + 1) ++ between ps vs (last + 1) ps.length) := by
  rw [between_append ps vs (Nat.le_succ_of_le h) hl,
    between_append ps vs (Nat.zero_le _) (Nat.le_of_lt (Nat.lt_of_le_of_lt h hl)), between_all]

/-! ## Groups -/

/-- What the parts of the group make of the values decides about its text. What is around it stays
as it is. -/
theorem parts_grouped (ps : List Part) (vs : List Filling) {first last : Nat} (h : first ≤ last) :
    let inner := parts ((ps.take (last + 1)).drop first)
      (vs.drop (slotsAll (ps.take first)).length)
    (parts (grouped ps first last) vs).text = between ps vs 0 first ++
      ((if inner.dropped then [] else between ps vs first (last + 1)) ++
        between ps vs (last + 1) ps.length) := by
  rw [grouped, parts_append]
  simp only [parts, part, parts_rest, drop_stretch ps vs (Nat.le_succ_of_le h), between,
    List.take_length, List.take_zero, List.drop_zero, slotsAll, List.length_nil]

/-- Without an absent value of its own a group adds what its parts add. -/
theorem parts_grouped_kept {ps : List Part} {vs : List Filling} {first last : Nat}
    (h : first ≤ last) (hl : last < ps.length)
    (hv : ∀ place, first ≤ place → place ≤ last → ¬ Unfilled ps vs place) :
    (parts (grouped ps first last) vs).text = (parts ps vs).text := by
  rw [parts_grouped ps vs h, if_neg, ← parts_text_eq ps vs h hl]
  intro hd
  obtain ⟨k, hk⟩ := parts_dropped_iff.1 hd
  obtain ⟨hlt, hunfilled⟩ := unfilled_stretch.1 hk
  exact hv (first + k) (Nat.le_add_right _ _) (Nat.le_of_lt_succ hlt) hunfilled

/-- With an absent value of its own a group adds nothing. -/
theorem parts_grouped_dropped {ps : List Part} {vs : List Filling} {first last place : Nat}
    (hf : first ≤ place) (hl : place ≤ last) (hv : Unfilled ps vs place) :
    (parts (grouped ps first last) vs).text =
      between ps vs 0 first ++ between ps vs (last + 1) ps.length := by
  obtain ⟨k, rfl⟩ := Nat.exists_eq_add_of_le hf
  rw [parts_grouped ps vs (Nat.le_trans hf hl), if_pos, List.nil_append]
  exact parts_dropped_iff.2 ⟨k, unfilled_stretch.2 ⟨Nat.lt_succ_of_le hl, hv⟩⟩

end CitationStudio.Render

namespace CitationStudio.Template

open Part (grouped)
open Render (between Unfilled)

/-! ## Templates -/

/-- An action that keeps no entry but those whose stamps have been given out. -/
def Action.Known (t : Template) : Action → Prop
  | .replace items _ _ => t.Known items
  | _ => True

/-- Do so all actions of a run? -/
def AllKnown (t : Template) : List Action → Prop
  | [] => True
  | a :: actions => a.Known t ∧ (t.act a).1.AllKnown actions

theorem act_stamped {t : Template} {a : Action} (ht : t.Stamped) (ha : a.Known t) :
    (t.act a).1.Stamped := by
  cases a with
  | add p =>
    have hown : t.Own (kept t.entries ++ [.new p]) := by
      intro e he
      simpa [kept] using he
    exact replace_stamped ht (hown.known ht) _ _
  | wrap first last =>
    rcases wrapValues_cases t.size first last with ⟨e, hact⟩ | ⟨a, b, hact⟩
    · rw [act, hact t rfl]
      exact ht
    · rw [act, hact t rfl]
      exact replace_stamped ht ((grouping_own t a b).known ht) _ _
  | replace items record reset => exact replace_stamped ht ha _ _
  | undo =>
    rw [act]
    cases hu : t.undo? with
    | none => exact ht
    | some t' => exact undo_stamped hu ht

theorem empty_stamped (limit : Option Int) : (empty limit).Stamped := by
  intro es hes e he
  rw [List.mem_singleton.1 hes] at he
  cases he

/-- However a template is made, its stamps have been given out. -/
theorem run_stamped {t : Template} {actions : List Action} (ht : t.Stamped)
    (ha : t.AllKnown actions) : (t.run actions).1.Stamped := by
  induction actions generalizing t with
  | nil => exact ht
  | cons a actions ih =>
    obtain ⟨ha, hactions⟩ := ha
    exact ih (act_stamped ht ha) hactions

theorem parts_group {t : Template} (ht : t.Stamped) (first last : Nat) :
    (t.group first last).parts = grouped t.parts first last := by
  rw [group_eq, parts_replace ht (grouping_fresh _ _ _), grouping_parts, parts]

/-- **Grouping is seen only where a value is absent.** Any run of parts of a template without empty
groups can be put into a group; the template shows the same text then and has the same slots. With
a value for each slot, absent or not, it renders as before, unless one of the parts of the run is
itself a slot whose value is absent: then the run adds nothing, and the parts around it add what
they did. The stamps of a template that has been made are as they are asked to be here
(`run_stamped`). -/
theorem wrap_renders {t : Template} (ht : t.Stamped) (hs : Part.solidAll t.parts = true)
    {first last : Nat} (h : first ≤ last) (hl : last < t.size) {values : List Render.Filling}
    (hv : t.slots.length ≤ values.length) :
    let text := between t.parts values
    ∃ t', t.wrap first last = .ok t' ∧ t'.display = t.display ∧ t'.slots = t.slots ∧
      Render.format t.compiled values =
        .ok (text 0 first ++ (text first (last + 1) ++ text (last + 1) t.size)) ∧
      ((∀ place, first ≤ place → place ≤ last → ¬ Unfilled t.parts values place) →
        Render.format t'.compiled values = Render.format t.compiled values) ∧
      ((∃ place, first ≤ place ∧ place ≤ last ∧ Unfilled t.parts values place) →
        Render.format t'.compiled values = .ok (text 0 first ++ text (last + 1) t.size)) := by
  intro text
  have hparts := parts_group ht first last
  have hsize : t.parts.length = t.size := List.length_map _
  have hwrap : t.wrap first last = .ok (t.group first last) :=
    wrap_eq_ok_iff.2 ⟨⟨by omega, by omega, by omega⟩, by simp⟩
  have hslots : (t.group first last).slots = t.slots := by
    rw [slots, hparts, Part.slotsAll_grouped h, slots]
  have hcount : (t.group first last).slots.length ≤ values.length := by
    rw [hslots]
    exact hv
  have hsolid : Part.solidAll (t.group first last).parts = true := by
    rw [hparts]
    exact Part.solidAll_grouped h (hsize ▸ hl) hs
  have hformat : Render.format t.compiled values = .ok (Render.parts t.parts values).text :=
    Render.format_compiled_of_le hs hv
  have hgroup : Render.format (t.group first last).compiled values =
      .ok (Render.parts (grouped t.parts first last) values).text := by
    rw [← hparts]
    exact Render.format_compiled_of_le hsolid hcount
  refine ⟨_, hwrap, ?_, hslots, ?_, fun hnone => ?_, ?_⟩
  · rw [display, hparts, Part.displayAll_grouped h, display]
  · rw [hformat, Render.parts_text_eq _ _ h (hsize ▸ hl), hsize]
  · rw [hgroup, Render.parts_grouped_kept h (hsize ▸ hl) hnone, hformat]
  · rintro ⟨place, hf, hp, hunfilled⟩
    rw [hgroup, Render.parts_grouped_dropped hf hp hunfilled, hsize]

/-- A slot and a group beside it, put into a group. If the inner group has no value only that one
is dropped; if the slot has none, both are. -/
theorem wrap_renders_nested :
    let actions : List Action := [.add (.slot ['A']), .add (.literal [',']), .add (.slot ['B']),
      .wrap (.int 1) (.int 2), .add (.slot ['C'])]
    let t := ((empty (some 100)).run actions).1
    let inner : List Render.Filling := [some ['x'], none, some ['z']]
    let outer : List Render.Filling := [none, some ['y'], some ['z']]
    t.Stamped ∧ Part.solidAll t.parts = true ∧ 0 ≤ 1 ∧ 1 < t.size ∧
      t.slots.length ≤ inner.length ∧ t.slots.length ≤ outer.length ∧
      (∀ place, 0 ≤ place → place ≤ 1 → ¬ Unfilled t.parts inner place) ∧
      (∃ place, 0 ≤ place ∧ place ≤ 1 ∧ Unfilled t.parts outer place) ∧
      ∃ t', t.wrap 0 1 = .ok t' ∧ t'.display = t.display ∧
        Render.format t'.compiled inner = .ok ['x', 'z'] ∧
        Render.format t.compiled outer = .ok [',', 'y', 'z'] ∧
        Render.format t'.compiled outer = .ok ['z'] := by
  intro actions t inner outer
  have ht : t.Stamped :=
    run_stamped (empty_stamped _) ⟨trivial, trivial, trivial, trivial, trivial, trivial⟩
  have hs : Part.solidAll t.parts = true := by decide
  have hl : 1 < t.size := by decide
  have hinner : t.slots.length ≤ inner.length := by decide
  have houter : t.slots.length ≤ outer.length := by decide
  have hkept : ∀ place, 0 ≤ place → place ≤ 1 → ¬ Unfilled t.parts inner place := by
    rintro (_ | _ | place) - hp ⟨name, hname, hvalue⟩
    · cases hvalue
    · cases hname
    · omega
  have hdropped : ∃ place, 0 ≤ place ∧ place ≤ 1 ∧ Unfilled t.parts outer place :=
    ⟨0, by decide, by decide, ['A'], rfl, rfl⟩
  obtain ⟨t', hwrap, hdisplay, -, hformat, hsame, -⟩ :=
    wrap_renders ht hs (Nat.zero_le 1) hl hinner
  obtain ⟨t'', hwrap', -, -, hformat', -, hless⟩ :=
    wrap_renders ht hs (Nat.zero_le 1) hl houter
  cases hwrap.symm.trans hwrap'
  exact ⟨ht, hs, by decide, hl, hinner, houter, hkept, hdropped, t', hwrap, hdisplay,
    (hsame hkept).trans hformat, hformat', hless hdropped⟩

end CitationStudio.Template
