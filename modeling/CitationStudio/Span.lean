import CitationStudio.Text.Basic

/-! Half-open spans of offsets and lists of them. A list is canonical if its spans are not
empty and each ends before the next one starts, with a gap in between; there is exactly one
canonical list for a set of offsets. `merge` makes a list canonical by putting its spans in one
by one, where a span swallows those it overlaps or touches. -/

namespace CitationStudio

structure Span where
  start : Int
  stop : Int
  deriving Repr, DecidableEq, Inhabited

namespace Span

/-- A span with its ends in order. -/
def ordered (s : Span) : Span := if s.stop < s.start then ⟨s.stop, s.start⟩ else s

def Holds (s : Span) (i : Int) : Prop := s.start ≤ i ∧ i < s.stop

instance (s : Span) (i : Int) : Decidable (s.Holds i) := inferInstanceAs (Decidable (_ ∧ _))

/-- Is an offset inside one of the spans? -/
def Covers (ss : List Span) (i : Int) : Prop := ∃ s ∈ ss, s.Holds i

instance (ss : List Span) (i : Int) : Decidable (Covers ss i) :=
  inferInstanceAs (Decidable (∃ s ∈ ss, s.Holds i))

/-- Non-empty spans, each ending before the next one starts. -/
inductive Canonical : List Span → Prop
  | nil : Canonical []
  | one {s : Span} : s.start < s.stop → Canonical [s]
  | cons {s s' : Span} {ss : List Span} : s.start < s.stop → s.stop < s'.start →
      Canonical (s' :: ss) → Canonical (s :: s' :: ss)

/-- Puts a non-empty span into a canonical list. -/
def insert (s : Span) : List Span → List Span
  | [] => [s]
  | s' :: ss =>
    if s.stop < s'.start then s :: s' :: ss
    else if s'.stop < s.start then s' :: insert s ss
    else insert ⟨min s.start s'.start, max s.stop s'.stop⟩ ss

/-- The canonical list that covers what the given spans cover. -/
def merge (ss : List Span) : List Span :=
  (ss.filter fun s => s.start < s.stop).foldr insert []

/-- What the cut from `start` to `stop` leaves of a span. -/
def minus (s : Span) (start stop : Int) : List Span :=
  if s.stop ≤ start ∨ stop ≤ s.start then [s]
  else (if s.start < start then [⟨s.start, start⟩] else []) ++
    (if stop < s.stop then [⟨stop, s.stop⟩] else [])

/-- Takes the offsets from `start` to before `stop` out of spans. -/
def subtract (ss : List Span) (start stop : Int) : List Span :=
  merge (ss.flatMap fun s => s.minus start stop)

/-- What becomes of a span when the text from `start` to `stop` is replaced by one of another
length: a span around all of it stretches or shrinks, another one keeps what lies outside. -/
def edited (s : Span) (start stop length : Int) : List Span :=
  let shift := length - (stop - start)
  if s.stop ≤ start then [s]
  else if stop ≤ s.start then [⟨s.start + shift, s.stop + shift⟩]
  else if s.start ≤ start ∧ stop ≤ s.stop then [⟨s.start, s.stop + shift⟩]
  else (if s.start < start then [⟨s.start, start⟩] else []) ++
    (if stop < s.stop then [⟨stop + shift, s.stop + shift⟩] else [])

def remap (ss : List Span) (start stop length : Int) : List Span :=
  merge (ss.flatMap fun s => s.edited start stop length)

theorem Canonical.tail {s : Span} {ss : List Span} (h : Canonical (s :: ss)) : Canonical ss := by
  cases h with
  | one => exact .nil
  | cons _ _ h => exact h

theorem Canonical.head {s : Span} {ss : List Span} (h : Canonical (s :: ss)) :
    s.start < s.stop := by
  cases h with
  | one h => exact h
  | cons h _ _ => exact h

theorem covers_cons {s : Span} {ss : List Span} {i : Int} :
    Covers (s :: ss) i ↔ s.Holds i ∨ Covers ss i := by
  simp [Covers]

@[simp] theorem not_covers_nil {i : Int} : ¬ Covers [] i := by simp [Covers]

/-- Inserting adds exactly the offsets of the span. -/
theorem covers_insert {s : Span} {ss : List Span} {i : Int} (hs : s.start < s.stop)
    (h : Canonical ss) : Covers (insert s ss) i ↔ s.Holds i ∨ Covers ss i := by
  induction ss generalizing s with
  | nil => simp [insert, covers_cons]
  | cons s' ss ih =>
    simp only [insert]
    split
    · simp only [covers_cons]
    · split
      · simp only [covers_cons, ih hs h.tail]
        constructor
        · rintro (h | h | h)
          · exact .inr (.inl h)
          · exact .inl h
          · exact .inr (.inr h)
        · rintro (h | h | h)
          · exact .inr (.inl h)
          · exact .inl h
          · exact .inr (.inr h)
      · rename_i h1 h2
        have hs' := h.head
        rw [ih (by simp only; omega) h.tail, covers_cons]
        simp only [Holds]
        constructor
        · rintro (h | h)
          · by_cases hi : s.start ≤ i ∧ i < s.stop
            · exact .inl hi
            · exact .inr (.inl (by omega))
          · exact .inr (.inr h)
        · rintro (h | h | h)
          · exact .inl (by omega)
          · exact .inl (by omega)
          · exact .inr h

/-- Everything in a canonical list starts at or after a bound its first span starts after. -/
theorem canonical_insert {s : Span} {ss : List Span} (hs : s.start < s.stop)
    (h : Canonical ss) :
    Canonical (insert s ss) ∧
      ∀ b : Int, b < s.start → (∀ s' ∈ ss.head?, b < s'.start) →
        ∀ s' ∈ (insert s ss).head?, b < s'.start := by
  induction ss generalizing s with
  | nil => exact ⟨.one hs, by simp [insert]⟩
  | cons s' ss ih =>
    simp only [insert]
    split
    · rename_i h1
      exact ⟨.cons hs h1 h, fun b hb _ => by simpa using hb⟩
    · split
      · rename_i h1 h2
        obtain ⟨hc, hb⟩ := ih hs h.tail
        refine ⟨?_, by simp⟩
        have hgap : ∀ x ∈ (insert s ss).head?, s'.stop < x.start := by
          refine hb s'.stop h2 ?_
          cases h with
          | one => simp
          | cons _ hg _ => simpa using hg
        cases hi : insert s ss with
        | nil => exact .one h.head
        | cons x xs =>
          rw [hi] at hc hgap
          exact .cons h.head (by simpa using hgap) hc
      · rename_i h1 h2
        have hs' := h.head
        obtain ⟨hc, hb⟩ := ih (s := ⟨min s.start s'.start, max s.stop s'.stop⟩)
          (by simp only; omega) h.tail
        refine ⟨hc, fun b hbs hbh => hb b ?_ ?_⟩
        · have := hbh s' (by simp)
          simp only
          omega
        · have hb' := hbh s' (by simp)
          cases h with
          | one => simp
          | cons _ hg _ =>
            simp only [List.head?_cons, Option.mem_def, Option.some.injEq, forall_eq']
            omega

theorem canonical_merge (ss : List Span) : Canonical (merge ss) := by
  unfold merge
  induction ss with
  | nil => exact .nil
  | cons s ss ih =>
    by_cases h : s.start < s.stop
    · simp only [List.filter_cons, h, decide_true, if_true, List.foldr_cons]
      exact (canonical_insert h ih).1
    · simpa [List.filter_cons, h] using ih

/-- Merging changes nothing of what is covered. -/
theorem covers_merge (ss : List Span) (i : Int) : Covers (merge ss) i ↔ Covers ss i := by
  induction ss with
  | nil => simp [merge]
  | cons s ss ih =>
    by_cases h : s.start < s.stop
    · have hm : merge (s :: ss) = insert s (merge ss) := by simp [merge, h]
      rw [hm, covers_insert h (canonical_merge ss), covers_cons, ih]
    · have hm : merge (s :: ss) = merge ss := by simp [merge, h]
      rw [hm, ih, covers_cons]
      constructor
      · exact .inr
      · rintro (hh | hh)
        · exact absurd (Int.lt_of_le_of_lt hh.1 hh.2) h
        · exact hh

end Span

end CitationStudio
