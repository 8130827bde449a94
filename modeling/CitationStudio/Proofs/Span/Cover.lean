import CitationStudio.Span

/-! # What spans cover after an edit

A list of spans is known by the offsets it covers, and `merge` keeps these. So each operation on
spans is described by what becomes of a single offset. The spans also stay in the bounds of the
text, whose length an edit changes. -/

namespace CitationStudio.Span

/-- A span lies in a text of a given length. It may be empty, but its ends are in order. -/
structure LiesIn (s : Span) (length : Int) : Prop where
  nonneg : 0 ≤ s.start
  ordered : s.start ≤ s.stop
  le : s.stop ≤ length

instance (s : Span) (length : Int) : Decidable (s.LiesIn length) :=
  decidable_of_iff (0 ≤ s.start ∧ s.start ≤ s.stop ∧ s.stop ≤ length)
    ⟨fun h => ⟨h.1, h.2.1, h.2.2⟩, fun h => ⟨h.nonneg, h.ordered, h.le⟩⟩

/-- The spans lie in a text of a given length, their ends in any order. -/
def Within (length : Int) (ss : List Span) : Prop := ∀ s ∈ ss, 0 ≤ s.start ∧ s.stop ≤ length

instance (length : Int) (ss : List Span) : Decidable (Within length ss) :=
  inferInstanceAs (Decidable (∀ s ∈ ss, 0 ≤ s.start ∧ s.stop ≤ length))

@[simp] theorem within_nil {length : Int} : Within length [] := fun _ h => nomatch h

theorem within_cons {length : Int} {s : Span} {ss : List Span} :
    Within length (s :: ss) ↔ (0 ≤ s.start ∧ s.stop ≤ length) ∧ Within length ss := by
  simp only [Within, List.mem_cons, forall_eq_or_imp]

theorem within_insert {length : Int} {s : Span} {ss : List Span} (hs : 0 ≤ s.start)
    (hl : s.stop ≤ length) (h : Within length ss) : Within length (insert s ss) := by
  induction ss generalizing s with
  | nil => exact within_cons.2 ⟨⟨hs, hl⟩, h⟩
  | cons s' ss ih =>
    obtain ⟨hs', hss⟩ := within_cons.1 h
    rw [insert]
    split
    · exact within_cons.2 ⟨⟨hs, hl⟩, h⟩
    · split
      · exact within_cons.2 ⟨hs', ih hs hl hss⟩
      · exact ih (by simp only; omega) (by simp only; omega) hss

theorem within_merge {length : Int} {ss : List Span} (h : Within length ss) :
    Within length (merge ss) := by
  unfold merge
  induction ss with
  | nil => exact h
  | cons s ss ih =>
    obtain ⟨hs, hss⟩ := within_cons.1 h
    rw [List.filter_cons]
    split
    · rw [List.foldr_cons]
      exact within_insert hs.1 hs.2 (ih hss)
    · exact ih hss

theorem within_append {length : Int} {ss ts : List Span} (hs : Within length ss)
    (ht : Within length ts) : Within length (ss ++ ts) := by
  intro s h
  rcases List.mem_append.1 h with h | h
  · exact hs s h
  · exact ht s h

theorem within_flatMap {length length' : Int} {ss : List Span} {f : Span → List Span}
    (h : Within length ss)
    (hf : ∀ s, 0 ≤ s.start → s.stop ≤ length → Within length' (f s)) :
    Within length' (ss.flatMap f) := by
  intro s hs
  obtain ⟨s', hs', hm⟩ := List.mem_flatMap.1 hs
  exact hf s' (h s' hs').1 (h s' hs').2 s hm

theorem within_subtract {length : Int} {ss : List Span} (h : Within length ss) (a b : Int) :
    Within length (subtract ss a b) := by
  refine within_merge (within_flatMap h fun s h0 hl => ?_)
  unfold minus
  split
  · exact within_cons.2 ⟨⟨h0, hl⟩, within_nil⟩
  · refine within_append ?_ ?_
    · split
      · exact within_cons.2 ⟨⟨h0, by simp only; omega⟩, within_nil⟩
      · exact within_nil
    · split
      · exact within_cons.2 ⟨⟨by simp only; omega, hl⟩, within_nil⟩
      · exact within_nil

theorem within_remap {length : Int} {ss : List Span} (h : Within length ss) (a b added : Int)
    (ha : 0 ≤ a) (hb : b ≤ length) (hl : 0 ≤ added) :
    Within (length - (b - a) + added) (remap ss a b added) := by
  refine within_merge (within_flatMap h fun s h0 hs => ?_)
  unfold edited
  dsimp only
  split
  · exact within_cons.2 ⟨⟨h0, by omega⟩, within_nil⟩
  · split
    · exact within_cons.2 ⟨⟨by simp only; omega, by simp only; omega⟩, within_nil⟩
    · split
      · exact within_cons.2 ⟨⟨h0, by simp only; omega⟩, within_nil⟩
      · refine within_append ?_ ?_
        · split
          · exact within_cons.2 ⟨⟨h0, by simp only; omega⟩, within_nil⟩
          · exact within_nil
        · split
          · exact within_cons.2 ⟨⟨by simp only; omega, by simp only; omega⟩, within_nil⟩
          · exact within_nil

/-! ## Coverage -/

theorem covers_append {ss ts : List Span} {i : Int} :
    Covers (ss ++ ts) i ↔ Covers ss i ∨ Covers ts i := by
  simp only [Covers, List.mem_append, or_and_right, exists_or]

theorem covers_flatMap {ss : List Span} {f : Span → List Span} {i : Int} :
    Covers (ss.flatMap f) i ↔ ∃ s ∈ ss, Covers (f s) i := by
  simp only [Covers, List.mem_flatMap]
  constructor
  · rintro ⟨t, ⟨s, hs, ht⟩, hi⟩
    exact ⟨s, hs, t, ht, hi⟩
  · rintro ⟨s, hs, t, ht, hi⟩
    exact ⟨t, ⟨s, hs, ht⟩, hi⟩

theorem covers_singleton {s : Span} {i : Int} : Covers [s] i ↔ s.Holds i := by
  rw [covers_cons]
  exact or_iff_left not_covers_nil

/-- A span is around a stretch if it overlaps it and has no end inside it. -/
def Around (s : Span) (a b : Int) : Prop := s.start < b ∧ a < s.stop ∧ s.start ≤ a ∧ b ≤ s.stop

instance (s : Span) (a b : Int) : Decidable (s.Around a b) :=
  inferInstanceAs (Decidable (_ ∧ _ ∧ _ ∧ _))

/-- What lies before an edit keeps its kind and its place, what lies after it keeps its kind and
is moved, and what is put in is in the spans around the edit. -/
theorem covers_edited (s : Span) {a b added : Int} (hab : a ≤ b) (hl : 0 ≤ added) (i : Int) :
    Covers (s.edited a b added) i ↔ (i < a ∧ s.Holds i) ∨
      (a + added ≤ i ∧ s.Holds (i - added + (b - a))) ∨
      (a ≤ i ∧ i < a + added ∧ s.Around a b) := by
  unfold edited
  dsimp only
  split
  · rw [covers_singleton]
    simp only [Holds, Around]
    omega
  · split
    · rw [covers_singleton]
      simp only [Holds, Around]
      omega
    · split
      · rw [covers_singleton]
        simp only [Holds, Around]
        omega
      · have hleft : Covers (if s.start < a then [⟨s.start, a⟩] else []) i ↔
            s.start < a ∧ s.start ≤ i ∧ i < a := by
          split <;> simp [covers_singleton, Holds, *]
        have hright : Covers (if b < s.stop then
              [⟨b + (added - (b - a)), s.stop + (added - (b - a))⟩] else []) i ↔
            b < s.stop ∧ b + (added - (b - a)) ≤ i ∧ i < s.stop + (added - (b - a)) := by
          split <;> simp [covers_singleton, Holds, *]
        rw [covers_append, hleft, hright]
        simp only [Holds, Around]
        omega

theorem covers_remap (ss : List Span) {a b added : Int} (hab : a ≤ b) (hl : 0 ≤ added) (i : Int) :
    Covers (remap ss a b added) i ↔ (i < a ∧ Covers ss i) ∨
      (a + added ≤ i ∧ Covers ss (i - added + (b - a))) ∨
      (a ≤ i ∧ i < a + added ∧ ∃ s ∈ ss, s.Around a b) := by
  rw [remap, covers_merge, covers_flatMap]
  constructor
  · rintro ⟨s, hs, hc⟩
    rcases (covers_edited s hab hl i).1 hc with ⟨h, hi⟩ | ⟨h, hi⟩ | ⟨h1, h2, hi⟩
    · exact .inl ⟨h, s, hs, hi⟩
    · exact .inr (.inl ⟨h, s, hs, hi⟩)
    · exact .inr (.inr ⟨h1, h2, s, hs, hi⟩)
  · rintro (⟨h, s, hs, hi⟩ | ⟨h, s, hs, hi⟩ | ⟨h1, h2, s, hs, hi⟩)
    · exact ⟨s, hs, (covers_edited s hab hl i).2 (.inl ⟨h, hi⟩)⟩
    · exact ⟨s, hs, (covers_edited s hab hl i).2 (.inr (.inl ⟨h, hi⟩))⟩
    · exact ⟨s, hs, (covers_edited s hab hl i).2 (.inr (.inr ⟨h1, h2, hi⟩))⟩

section Remap

variable (ss : List Span) {a b added : Int} (hab : a ≤ b) (hl : 0 ≤ added)
include hab hl

theorem covers_remap_before {i : Int} (hi : i < a) :
    Covers (remap ss a b added) i ↔ Covers ss i := by
  rw [covers_remap ss hab hl]
  constructor
  · rintro (h | h | h)
    · exact h.2
    · omega
    · omega
  · intro h
    exact .inl ⟨hi, h⟩

theorem covers_remap_inside {i : Int} (ha : a ≤ i) (hi : i < a + added) :
    Covers (remap ss a b added) i ↔ ∃ s ∈ ss, s.Around a b := by
  rw [covers_remap ss hab hl]
  constructor
  · rintro (h | h | h)
    · omega
    · omega
    · exact h.2.2
  · intro h
    exact .inr (.inr ⟨ha, hi, h⟩)

theorem covers_remap_after {i : Int} (hi : 0 ≤ i) :
    Covers (remap ss a b added) (i + (a + added)) ↔ Covers ss (i + b) := by
  rw [covers_remap ss hab hl, show i + (a + added) - added + (b - a) = i + b by omega]
  constructor
  · rintro (h | h | h)
    · omega
    · exact h.2
    · omega
  · intro h
    exact .inr (.inl ⟨by omega, h⟩)

end Remap

theorem covers_minus (s : Span) (a b i : Int) :
    Covers (s.minus a b) i ↔ s.Holds i ∧ ¬ (a ≤ i ∧ i < b) := by
  unfold minus
  split
  · rw [covers_singleton]
    simp only [Holds]
    omega
  · have hleft : Covers (if s.start < a then [⟨s.start, a⟩] else []) i ↔
        s.start < a ∧ s.start ≤ i ∧ i < a := by
      split <;> simp [covers_singleton, Holds, *]
    have hright : Covers (if b < s.stop then [⟨b, s.stop⟩] else []) i ↔
        b < s.stop ∧ b ≤ i ∧ i < s.stop := by
      split <;> simp [covers_singleton, Holds, *]
    rw [covers_append, hleft, hright]
    simp only [Holds]
    omega

theorem covers_subtract (ss : List Span) (a b i : Int) :
    Covers (subtract ss a b) i ↔ Covers ss i ∧ ¬ (a ≤ i ∧ i < b) := by
  rw [subtract, covers_merge, covers_flatMap]
  constructor
  · rintro ⟨s, hs, hc⟩
    obtain ⟨hi, hno⟩ := (covers_minus s a b i).1 hc
    exact ⟨⟨s, hs, hi⟩, hno⟩
  · rintro ⟨⟨s, hs, hi⟩, hno⟩
    exact ⟨s, hs, (covers_minus s a b i).2 ⟨hi, hno⟩⟩

/-! ## Ends of canonical spans -/

theorem canonical_cons_iff {s s' : Span} {ss : List Span} : Canonical (s :: s' :: ss) ↔
    s.start < s.stop ∧ s.stop < s'.start ∧ Canonical (s' :: ss) := by
  constructor
  · intro h
    cases h with
    | cons hs hgap h => exact ⟨hs, hgap, h⟩
  · intro h
    exact .cons h.1 h.2.1 h.2.2

instance decidableCanonical : (ss : List Span) → Decidable (Canonical ss)
  | [] => .isTrue .nil
  | [s] => decidable_of_iff (s.start < s.stop) ⟨.one, Canonical.head⟩
  | _ :: s' :: ss =>
    have := decidableCanonical (s' :: ss)
    decidable_of_iff _ canonical_cons_iff.symm

theorem Canonical.le_of_covers {s : Span} {ss : List Span} (h : Canonical (s :: ss)) {i : Int}
    (hi : Covers (s :: ss) i) : s.start ≤ i := by
  induction ss generalizing s with
  | nil => exact (covers_singleton.1 hi).1
  | cons s' ss ih =>
    rcases covers_cons.1 hi with hi | hi
    · exact hi.1
    · cases h with
      | cons hs hgap h =>
        have := ih h hi
        omega

theorem Canonical.nonempty {ss : List Span} (h : Canonical ss) {s : Span} (hs : s ∈ ss) :
    s.start < s.stop := by
  induction ss with
  | nil => cases hs
  | cons t ts ih =>
    rcases List.mem_cons.1 hs with rfl | hs
    · exact h.head
    · exact ih h.tail hs

/-- After the first span of a canonical list there is a gap. -/
theorem Canonical.gap {s : Span} {ss : List Span} (h : Canonical (s :: ss)) {i : Int}
    (hi : Covers ss i) : s.stop < i := by
  cases h with
  | one => exact absurd hi not_covers_nil
  | cons _ hgap h =>
    have := h.le_of_covers hi
    omega

/-- Just before a span of a canonical list starts, and where it stops, nothing is covered. -/
theorem Canonical.not_covers_ends {ss : List Span} (h : Canonical ss) {s : Span} (hs : s ∈ ss) :
    ¬ Covers ss (s.start - 1) ∧ ¬ Covers ss s.stop := by
  induction ss with
  | nil => cases hs
  | cons t ts ih =>
    have ht := h.head
    simp only [covers_cons, Holds]
    rcases List.mem_cons.1 hs with rfl | hs
    · have hgap (i : Int) (hi : i ≤ s.stop) : ¬ Covers ts i := fun hc => by
        have := h.gap hc
        omega
      refine ⟨fun hc => ?_, fun hc => ?_⟩
      · rcases hc with hc | hc
        · omega
        · exact hgap _ (by omega) hc
      · rcases hc with hc | hc
        · omega
        · exact hgap _ (Int.le_refl _) hc
    · obtain ⟨h1, h2⟩ := ih h.tail hs
      have hlt := h.tail.nonempty hs
      have hgap : t.stop < s.start := h.gap ⟨s, hs, by simp only [Holds]; omega⟩
      refine ⟨fun hc => ?_, fun hc => ?_⟩
      · rcases hc with hc | hc
        · omega
        · exact h1 hc
      · rcases hc with hc | hc
        · omega
        · exact h2 hc

/-- Neighbouring offsets are alike unless a span starts or stops between them. -/
theorem Canonical.covers_next {ss : List Span} (h : Canonical ss) (i : Int) :
    (Covers ss i ↔ Covers ss (i + 1)) ↔ ∀ s ∈ ss, s.start ≠ i + 1 ∧ s.stop ≠ i + 1 := by
  constructor
  · intro hi s hs
    obtain ⟨h1, h2⟩ := h.not_covers_ends hs
    have hlt := h.nonempty hs
    constructor
    · intro he
      rw [he, Int.add_sub_cancel] at h1
      exact h1 (hi.2 ⟨s, hs, by simp only [Holds]; omega⟩)
    · intro he
      rw [he] at h2
      exact h2 (hi.1 ⟨s, hs, by simp only [Holds]; omega⟩)
  · intro hne
    constructor
    · rintro ⟨s, hs, hi⟩
      have := hne s hs
      exact ⟨s, hs, by simp only [Holds] at hi ⊢; omega⟩
    · rintro ⟨s, hs, hi⟩
      have := hne s hs
      exact ⟨s, hs, by simp only [Holds] at hi ⊢; omega⟩

/-- The spans of a canonical list are in order, with a gap after each. -/
theorem Canonical.pairwise {ss : List Span} (h : Canonical ss) :
    ss.Pairwise fun s t => s.stop < t.start := by
  induction ss with
  | nil => exact .nil
  | cons s ss ih =>
    refine .cons (fun t ht => ?_) (ih h.tail)
    have hlt := h.tail.nonempty ht
    exact h.gap ⟨t, ht, by simp only [Holds]; omega⟩

/-- The first span of a canonical list is known by what the list covers. -/
theorem Canonical.head_eq {s t : Span} {ss ts : List Span} (hs : Canonical (s :: ss))
    (ht : Canonical (t :: ts)) (h : ∀ i, Covers (s :: ss) i ↔ Covers (t :: ts) i) : s = t := by
  have hs0 := hs.head
  have ht0 := ht.head
  have hcs : Covers (s :: ss) s.start := covers_cons.2 (.inl ⟨Int.le_refl _, hs0⟩)
  have hct : Covers (t :: ts) t.start := covers_cons.2 (.inl ⟨Int.le_refl _, ht0⟩)
  have h1 := ht.le_of_covers ((h _).1 hcs)
  have h2 := hs.le_of_covers ((h _).2 hct)
  have hstart : s.start = t.start := Int.le_antisymm h2 h1
  -- where the one stops, the other does not go on
  have hsstop := (hs.not_covers_ends (List.mem_cons_self ..)).2
  have htstop := (ht.not_covers_ends (List.mem_cons_self ..)).2
  have h3 : ¬ t.Holds s.stop := fun hi => hsstop ((h _).2 (covers_cons.2 (.inl hi)))
  have h4 : ¬ s.Holds t.stop := fun hi => htstop ((h _).1 (covers_cons.2 (.inl hi)))
  have hstop : s.stop = t.stop := by
    simp only [Holds] at h3 h4
    omega
  obtain ⟨a, b⟩ := s
  obtain ⟨c, d⟩ := t
  obtain rfl : a = c := hstart
  obtain rfl : b = d := hstop
  rfl

/-- There is one canonical list for a set of offsets. -/
theorem Canonical.ext {ss ts : List Span} (hs : Canonical ss) (ht : Canonical ts)
    (h : ∀ i, Covers ss i ↔ Covers ts i) : ss = ts := by
  induction ss generalizing ts with
  | nil =>
    cases ts with
    | nil => rfl
    | cons t ts =>
      have ht0 := ht.head
      exact absurd ((h t.start).2 (covers_cons.2 (.inl ⟨Int.le_refl _, ht0⟩))) not_covers_nil
  | cons s ss ih =>
    cases ts with
    | nil =>
      have hs0 := hs.head
      exact absurd ((h s.start).1 (covers_cons.2 (.inl ⟨Int.le_refl _, hs0⟩))) not_covers_nil
    | cons t ts =>
      obtain rfl := hs.head_eq ht h
      refine congrArg _ (ih hs.tail ht.tail fun i => ?_)
      have hi := h i
      simp only [covers_cons] at hi
      constructor
      · intro hc
        have hgap := hs.gap hc
        exact (hi.1 (.inr hc)).resolve_left fun hin => by
          simp only [Holds] at hin
          omega
      · intro hc
        have hgap := ht.gap hc
        exact (hi.2 (.inr hc)).resolve_left fun hin => by
          simp only [Holds] at hin
          omega

/-- A canonical list is left as it is. -/
theorem merge_of_canonical {ss : List Span} (h : Canonical ss) : merge ss = ss :=
  (canonical_merge ss).ext h (covers_merge ss)

end CitationStudio.Span
