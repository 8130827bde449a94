import CitationStudio.Proofs.Render.Shown
import CitationStudio.Proofs.Tagging.Run

/-! # What an author sees is what is rendered

In every session, either nothing visible was typed and there are no parts, or the parts, now and
in every state that undo can bring back, show the input and have no empty group (`Coherent`).
A change starts the history anew or shows the same text, so each step keeps this, whatever the
limit of the history. Compiling, reading and rendering with the slots' own names then gives the
input back. -/

namespace CitationStudio.Tagging.Session

open Template (Item)

variable {σ : Type}

/-- Parts that show a text, without an empty group. -/
def Shows (t : Text) (ps : List Part) : Prop :=
  Part.displayAll ps = t ∧ Part.solidAll ps = true

/-- Nothing visible was typed, and there is nothing to go back to. -/
def Vacant (template : Template) (input : Text) : Prop :=
  input.isBlank = true ∧ template.entries = [] ∧ template.history = []

/-- The input agrees with the parts, the present and the recorded ones. -/
structure Coherent (template : Template) (input : Text) : Prop where
  stamped : template.Stamped
  agrees : Vacant template input ∨ template.Throughout (Shows input)

theorem typed_shows {t : Text} (h : t.isBlank = false) :
    Shows t ((typedItems t).map Item.part) := by
  rw [typedItems, h]
  exact ⟨by simp [Item.part, Part.displayAll, Part.display], by simp [Item.part]⟩

theorem typed_fresh (t : Text) : Template.Fresh (typedItems t) := by
  unfold typedItems
  split
  · exact .inl rfl
  · exact .inr ⟨_, List.mem_singleton.2 rfl⟩

theorem typed_own (template : Template) (t : Text) : template.Own (typedItems t) := by
  intro e he
  unfold typedItems at he
  split at he <;> simp at he

theorem loaded_fresh (t : Text) : Template.Fresh (loadedItems t) := by
  unfold loadedItems
  cases h : Citation.parts t with
  | nil => exact .inl rfl
  | cons p ps => exact .inr ⟨p, by simp⟩

theorem loaded_own (template : Template) (t : Text) : template.Own (loadedItems t) := by
  intro e he
  obtain ⟨p, -, hp⟩ := List.mem_map.1 he
  cases hp

theorem loaded_parts (t : Text) : (loadedItems t).map Item.part = Citation.parts t := by
  simp [loadedItems, Item.part, Function.comp_def]

theorem solidAll_citation (t : Text) : Part.solidAll (Citation.parts t) = true := by
  rw [Part.solidAll_iff]
  intro p hp
  unfold Citation.parts at hp
  split at hp
  · cases hp
  · obtain ⟨token, -, rfl⟩ := List.mem_map.1 hp
    cases token <;> rfl

theorem new_coherent (limit : Option Int) : Coherent (Template.empty limit) [] := by
  constructor
  · intro es hes e he
    simp only [Template.snapshots, Template.empty, List.mem_singleton] at hes
    subst hes
    cases he
  · exact .inl ⟨rfl, rfl, rfl⟩

theorem typed_vacant {template : Template} (hs : template.Stamped) {t : Text}
    (h : t.isBlank = true) : Vacant (template.replace (typedItems t) false true) t := by
  refine ⟨h, ?_, ?_⟩
  · rw [Template.entries_replace hs (typed_fresh t), typedItems, h]
    rfl
  · apply List.eq_nil_iff_forall_not_mem.2
    intro es hes
    cases (Template.mem_history_replace hes).1

/-- Each change keeps the input and the parts in agreement. -/
theorem Change.coherent {s : Session σ} {template : Template} {input : Text}
    (hc : Change s template input) (h : Coherent s.template s.input) :
    Coherent template input := by
  obtain ⟨hs, ha⟩ := h
  cases hc with
  | same => exact ⟨hs, ha⟩
  | typed =>
    refine ⟨Template.replace_stamped hs ((typed_own _ _).known hs) _ _, ?_⟩
    cases hb : input.isBlank with
    | true => exact .inl (typed_vacant hs hb)
    | false =>
      exact .inr (Template.replace_throughout hs (typed_fresh _) _ _ (typed_shows hb)
        fun hr => by cases hr)
  | loaded t =>
    refine ⟨Template.replace_stamped hs ((loaded_own _ _).known hs) _ _, .inr ?_⟩
    refine Template.replace_throughout hs (loaded_fresh _) _ _ ⟨?_, ?_⟩ fun hr => by cases hr
    · rw [Template.display, Template.parts_replace hs (loaded_fresh _)]
    · rw [loaded_parts]
      exact solidAll_citation t
  | @converted sort start stop items hab hb hcut =>
    obtain ⟨before, run, after, head, text, tail, part, cut⟩ := cut_cutting hab hcut
    have hown : s.template.Own items := by
      intro e he
      rcases cut.mem_items he with ⟨e', he', heq⟩ | ⟨p, hp, -⟩
      · cases heq; exact he'
      · cases hp
    refine ⟨Template.replace_stamped hs (hown.known hs) _ _, .inr ?_⟩
    rcases ha with ⟨-, he, -⟩ | ha
    · -- there are no parts, so nothing can be cut
      rw [he] at hcut
      cases hcut
    · obtain ⟨hd, hsol⟩ := ha s.template.entries (List.mem_cons_self ..)
      exact Template.replace_throughout hs cut.fresh _ _
        ⟨cut.displayAll.trans hd, cut.solidAll hsol⟩ fun _ => ha
  | @wrapped first last hle hlt =>
    rw [Template.group_eq]
    have hf := Template.grouping_fresh s.template.entries first last
    refine ⟨Template.replace_stamped hs ((Template.grouping_own _ _ _).known hs) _ _, .inr ?_⟩
    rcases ha with ⟨-, he, -⟩ | ha
    · rw [Template.size, he] at hlt
      cases hlt
    · obtain ⟨hd, hsol⟩ := ha s.template.entries (List.mem_cons_self ..)
      exact Template.replace_throughout hs hf _ _
        ⟨(Template.displayAll_grouping _ hle).trans hd, Template.solidAll_grouping hle hlt hsol⟩
        fun _ => ha
  | undone hu =>
    refine ⟨Template.undo_stamped hu hs, ?_⟩
    rcases ha with ⟨-, -, hh⟩ | ha
    · unfold Template.undo? at hu
      rw [hh] at hu
      cases hu
    · exact .inr (Template.undo_throughout hu ha)

variable [Surface σ]

theorem run_coherent (actions : List (Action σ)) {s : Session σ}
    (h : Coherent s.template s.input) :
    Coherent (s.run actions).template (s.run actions).input := by
  induction actions generalizing s with
  | nil => exact h
  | cons a actions ih => exact ih ((act_change s a).coherent h)

/-- **The output renders to the input.** Whatever an author does, with whatever limit of the
history: nothing visible was typed and there are no parts, or rendering the output with the
names of its slots gives exactly the input. -/
theorem run_renders_input (surface : Option σ) (feed : Feed) (limit : Option Int)
    (actions : List (Action σ)) :
    let s := (Session.new surface feed limit).run actions
    (s.input.isBlank = true ∧ s.template.parts = []) ∨
      Render.format s.output (s.template.slots.map some) = .ok s.input := by
  intro s
  obtain ⟨-, ⟨hb, he, -⟩ | ha⟩ := run_coherent actions
    (s := Session.new surface feed limit) (new_coherent limit)
  · exact .inl ⟨hb, by rw [Template.parts, he]; rfl⟩
  · obtain ⟨hd, hs⟩ := ha s.template.entries (List.mem_cons_self ..)
    right
    rw [← hd]
    exact Render.format_own_names hs

end CitationStudio.Tagging.Session
