import CitationStudio.Template.Wrap
import CitationStudio.Proofs.Part.Shape

/-! # What the snapshots of a template have in common

A change puts new entries in place of the present ones and may record these, so all that can
ever be shown again are the present state and the recorded ones. New entries get stamps that no
entry had before; this is what tells a change from no change, and it is kept by every step. -/

namespace CitationStudio.Template

def Item.part : Item → Part
  | .new p => p
  | .kept e => e.part

/-- The text that entries show. -/
def shown (es : List Entry) : Text := Part.displayAll (es.map Entry.part)

/-- All states a template can show without another change: the present one and the recorded. -/
def snapshots (t : Template) : List (List Entry) := t.entries :: t.history

/-- Every stamp in use has been given out before. -/
def Stamped (t : Template) : Prop := ∀ es ∈ t.snapshots, ∀ e ∈ es, e.stamp < t.nextStamp

/-- Does a property of parts hold of every snapshot? -/
def Throughout (t : Template) (P : List Part → Prop) : Prop :=
  ∀ es ∈ t.snapshots, P (es.map Entry.part)

/-- Items that keep no entry but those of the template. -/
def Own (t : Template) (items : List Item) : Prop := ∀ e, .kept e ∈ items → e ∈ t.entries

/-- Items that keep no entry but those whose stamps have been given out. -/
def Known (t : Template) (items : List Item) : Prop :=
  ∀ e, .kept e ∈ items → e.stamp < t.nextStamp

/-- Items that are a change if they are put in place of entries. -/
def Fresh (items : List Item) : Prop := items = [] ∨ ∃ p, .new p ∈ items

theorem Own.known {t : Template} {items : List Item} (h : t.Own items) (ht : t.Stamped) :
    t.Known items :=
  fun e he => ht t.entries (List.mem_cons_self ..) e (h e he)

theorem shown_append (es fs : List Entry) : shown (es ++ fs) = shown es ++ shown fs := by
  rw [shown, List.map_append, Part.displayAll_append]
  rfl

theorem shown_cons (e : Entry) (es : List Entry) : shown (e :: es) = e.part.display ++ shown es :=
  rfl

@[simp] theorem shown_nil : shown [] = [] := rfl

theorem shown_singleton (e : Entry) : shown [e] = e.part.display := by
  rw [shown_cons, shown_nil, List.append_nil]

theorem kept_parts (es : List Entry) : (kept es).map Item.part = es.map Entry.part := by
  simp [kept, Item.part, Function.comp_def]

theorem stamped_parts (next : Nat) (items : List Item) :
    (stamped next items).1.map Entry.part = items.map Item.part := by
  induction items generalizing next with
  | nil => rfl
  | cons i items ih =>
    cases i with
    | new p => simp [stamped, ih, Item.part]
    | kept e => simp [stamped, ih, Item.part]

/-- Stamps are given out in ascending order. -/
theorem stamped_lt (next : Nat) {items : List Item} (h : ∀ e, .kept e ∈ items → e.stamp < next) :
    next ≤ (stamped next items).2 ∧
      ∀ e ∈ (stamped next items).1, e.stamp < (stamped next items).2 := by
  induction items generalizing next with
  | nil => exact ⟨Nat.le_refl _, by simp [stamped]⟩
  | cons i items ih =>
    cases i with
    | new p =>
      obtain ⟨hle, hlt⟩ := ih (next + 1) fun e he => by
        have := h e (List.mem_cons_of_mem _ he)
        omega
      refine ⟨by simp only [stamped]; omega, ?_⟩
      intro e he
      simp only [stamped, List.mem_cons] at he ⊢
      rcases he with rfl | he
      · exact hle
      · exact hlt e he
    | kept k =>
      obtain ⟨hle, hlt⟩ := ih next fun e he => h e (List.mem_cons_of_mem _ he)
      refine ⟨hle, ?_⟩
      intro e he
      simp only [stamped, List.mem_cons] at he ⊢
      rcases he with rfl | he
      · have := h e (by simp)
        omega
      · exact hlt e he

theorem exists_new_stamp (next : Nat) {items : List Item} {p : Part} (h : .new p ∈ items) :
    ∃ e ∈ (stamped next items).1, next ≤ e.stamp := by
  induction items generalizing next with
  | nil => cases h
  | cons i items ih =>
    cases i with
    | new q => exact ⟨⟨next, q⟩, by simp [stamped], Nat.le_refl _⟩
    | kept k =>
      obtain ⟨e, he, hn⟩ := ih next (by simpa using h)
      exact ⟨e, by simp [stamped, he], hn⟩

theorem mem_keepLatest {limit : Option Nat} {states : List (List Entry)} {es : List Entry}
    (h : es ∈ keepLatest limit states) : es ∈ states := by
  cases limit with
  | none => exact h
  | some n => exact List.mem_of_mem_take h

/-- Do items change the entries, if they are put in their place? -/
def Changes (t : Template) (items : List Item) : Prop :=
  stamps (stamped t.nextStamp items).1 ≠ stamps t.entries

instance (t : Template) (items : List Item) : Decidable (t.Changes items) :=
  inferInstanceAs (Decidable (_ ≠ _))

section Replace

variable (t : Template) (items : List Item) (record reset : Bool)

theorem replace_entries : (t.replace items record reset).entries =
    if t.Changes items then (stamped t.nextStamp items).1 else t.entries := by
  by_cases hc : t.Changes items
  · have hs : ¬ stamps (stamped t.nextStamp items).1 = stamps t.entries := hc
    simp only [if_pos hc, replace, setEntries, if_neg hs]
    cases reset <;> cases record <;> rfl
  · have hs : stamps (stamped t.nextStamp items).1 = stamps t.entries := Decidable.not_not.1 hc
    simp only [if_neg hc, replace, setEntries, if_pos hs]
    cases reset <;> rfl

theorem replace_history : (t.replace items record reset).history =
    if reset then [] else if record ∧ t.Changes items then
      keepLatest t.limit (t.entries :: t.history) else t.history := by
  by_cases hc : t.Changes items
  · have hs : ¬ stamps (stamped t.nextStamp items).1 = stamps t.entries := hc
    simp only [hc, and_true, replace, setEntries, if_neg hs]
    cases reset <;> cases record <;> rfl
  · have hs : stamps (stamped t.nextStamp items).1 = stamps t.entries := Decidable.not_not.1 hc
    simp only [hc, and_false, if_false, replace, setEntries, if_pos hs]
    cases reset <;> rfl

theorem replace_nextStamp : (t.replace items record reset).nextStamp =
    (stamped t.nextStamp items).2 := rfl

theorem replace_limit : (t.replace items record reset).limit = t.limit :=
  setEntries_limit t _ record reset

end Replace

/-- Fresh items change the stamps, unless nothing is put in place of nothing. -/
theorem entries_replace {t : Template} {items : List Item} (ht : t.Stamped) (hf : Fresh items)
    (record reset : Bool) :
    (t.replace items record reset).entries = (stamped t.nextStamp items).1 := by
  rw [replace_entries]
  split
  · rfl
  · rename_i hc
    have hs : stamps (stamped t.nextStamp items).1 = stamps t.entries := Decidable.not_not.1 hc
    rcases hf with rfl | ⟨p, hp⟩
    · simpa [stamped, stamps] using hs.symm
    · obtain ⟨e, he, hn⟩ := exists_new_stamp t.nextStamp hp
      have hm : e.stamp ∈ stamps t.entries := hs ▸ List.mem_map_of_mem he
      obtain ⟨e', he', heq⟩ := List.mem_map.1 hm
      have := ht t.entries (by simp [snapshots]) e' he'
      omega

theorem parts_replace {t : Template} {items : List Item} (ht : t.Stamped) (hf : Fresh items)
    (record reset : Bool) : (t.replace items record reset).parts = items.map Item.part := by
  rw [parts, entries_replace ht hf, stamped_parts]

/-- A recorded state was a snapshot before. -/
theorem mem_history_replace {t : Template} {items : List Item} {record reset : Bool}
    {es : List Entry} (h : es ∈ (t.replace items record reset).history) :
    reset = false ∧ es ∈ t.snapshots := by
  rw [replace_history] at h
  split at h
  · cases h
  · rename_i hr
    refine ⟨by simpa using hr, ?_⟩
    split at h
    · exact mem_keepLatest h
    · exact List.mem_cons_of_mem _ h

theorem replace_stamped {t : Template} {items : List Item} (ht : t.Stamped) (hk : t.Known items)
    (record reset : Bool) : (t.replace items record reset).Stamped := by
  obtain ⟨hle, hlt⟩ := stamped_lt t.nextStamp hk
  intro es hes e he
  rw [replace_nextStamp]
  rcases List.mem_cons.1 hes with rfl | hes
  · rw [replace_entries] at he
    split at he
    · exact hlt e he
    · exact Nat.lt_of_lt_of_le (ht t.entries (List.mem_cons_self ..) e he) hle
  · exact Nat.lt_of_lt_of_le (ht es (mem_history_replace hes).2 e he) hle

/-- What holds of all snapshots and of the new parts holds of all snapshots afterwards; where the
history is forgotten the new parts are enough. -/
theorem replace_throughout {t : Template} {items : List Item} {P : List Part → Prop}
    (ht : t.Stamped) (hf : Fresh items) (record reset : Bool) (hp : P (items.map Item.part))
    (h : reset = false → t.Throughout P) : (t.replace items record reset).Throughout P := by
  intro es hes
  rcases List.mem_cons.1 hes with rfl | hes
  · rw [← parts, parts_replace ht hf]
    exact hp
  · obtain ⟨hr, hm⟩ := mem_history_replace hes
    exact h hr es hm

/-! ## Undo -/

theorem mem_snapshots_undo {t t' : Template} (h : t.undo? = some t') {es : List Entry}
    (hes : es ∈ t'.snapshots) : es ∈ t.snapshots := by
  unfold undo? at h
  cases hh : t.history with
  | nil => rw [hh] at h; cases h
  | cons older rest =>
    rw [hh] at h
    cases h
    rw [snapshots, hh]
    exact List.mem_cons_of_mem _ hes

theorem undo_nextStamp {t t' : Template} (h : t.undo? = some t') :
    t'.nextStamp = t.nextStamp := by
  unfold undo? at h
  split at h <;> cases h
  rfl

theorem undo_stamped {t t' : Template} (h : t.undo? = some t') (ht : t.Stamped) :
    t'.Stamped := by
  intro es hes e he
  rw [undo_nextStamp h]
  exact ht es (mem_snapshots_undo h hes) e he

theorem undo_throughout {t t' : Template} {P : List Part → Prop} (h : t.undo? = some t')
    (hp : t.Throughout P) : t'.Throughout P :=
  fun es hes => hp es (mem_snapshots_undo h hes)

/-! ## Groups -/

/-- The items that put a group in place of a run of entries. -/
def grouping (es : List Entry) (first last : Nat) : List Item :=
  kept (es.take first) ++
    .new (.group (((es.drop first).take (last + 1 - first)).map Entry.part)) ::
      kept (es.drop (last + 1))

theorem group_eq (t : Template) (first last : Nat) :
    t.group first last = t.replace (grouping t.entries first last) true false := rfl

theorem grouping_fresh (es : List Entry) (first last : Nat) : Fresh (grouping es first last) :=
  .inr ⟨_, by simp only [grouping, List.mem_append, List.mem_cons]; exact .inr (.inl rfl)⟩

theorem grouping_own (t : Template) (first last : Nat) : t.Own (grouping t.entries first last) := by
  intro e he
  simp only [grouping, kept, List.mem_append, List.mem_cons, List.mem_map, Item.kept.injEq,
    exists_eq_right, reduceCtorEq, false_or] at he
  rcases he with he | he
  · exact List.mem_of_mem_take he
  · exact List.mem_of_mem_drop he

theorem grouping_parts (es : List Entry) (first last : Nat) :
    (grouping es first last).map Item.part = Part.grouped (es.map Entry.part) first last := by
  rw [grouping, List.map_append, List.map_cons, kept_parts, kept_parts, Item.part, Part.grouped,
    List.drop_take]
  simp only [List.map_take, List.map_drop]

theorem displayAll_grouping (es : List Entry) {first last : Nat} (h : first ≤ last) :
    Part.displayAll ((grouping es first last).map Item.part) =
      Part.displayAll (es.map Entry.part) := by
  rw [grouping_parts, Part.displayAll_grouped h]

theorem solidAll_grouping {es : List Entry} {first last : Nat} (h : first ≤ last)
    (hl : last < es.length) (hs : Part.solidAll (es.map Entry.part) = true) :
    Part.solidAll ((grouping es first last).map Item.part) = true := by
  rw [grouping_parts]
  exact Part.solidAll_grouped h (by rwa [List.length_map]) hs

end CitationStudio.Template
