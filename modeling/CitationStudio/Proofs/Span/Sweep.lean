import CitationStudio.Proofs.Span.Cover

/-! # Merging in one sweep

Spans that are put in one by one, in any order, give the list that a single sweep over them gives,
from the first start to the last: a span that starts where the last one has not stopped, or just
where it stops, stretches it, and any other one comes after it. Both lists are canonical and cover
the same offsets, and a set of offsets has one canonical list. So merging and cutting are operations
on sets of offsets, whatever the spans are that make them up. -/

namespace CitationStudio.Span

/-- The spans after a given one, swept together with it. -/
def sweep (s : Span) : List Span → List Span
  | [] => [s]
  | t :: ts =>
    if t.start ≤ s.stop then sweep ⟨s.start, max s.stop t.stop⟩ ts else s :: sweep t ts

/-- Does a span come first? The start decides, and the stop between equal starts. -/
def precedes (s t : Span) : Bool :=
  s.start < t.start || (s.start = t.start && s.stop ≤ t.stop)

/-- Drops the empty spans, puts the others in order and sweeps them. -/
def swept (ss : List Span) : List Span :=
  match (ss.filter fun s => s.start < s.stop).mergeSort precedes with
  | [] => []
  | s :: ts => sweep s ts

theorem sweep_head (s : Span) (ts : List Span) :
    ∃ stop rest, sweep s ts = ⟨s.start, stop⟩ :: rest := by
  induction ts generalizing s with
  | nil => exact ⟨s.stop, [], rfl⟩
  | cons t ts ih =>
    rw [sweep]
    split
    · exact ih _
    · exact ⟨s.stop, _, rfl⟩

section Sweep

variable {s : Span} {ts : List Span} (h : (s :: ts).Pairwise fun a b => a.start ≤ b.start)
include h

theorem covers_sweep (i : Int) : Covers (sweep s ts) i ↔ Covers (s :: ts) i := by
  induction ts generalizing s with
  | nil => rfl
  | cons t ts ih =>
    obtain ⟨hs, hts⟩ := List.pairwise_cons.1 h
    have hst := hs t List.mem_cons_self
    rw [sweep]
    split
    · rename_i htouch
      have hstretched : (⟨s.start, max s.stop t.stop⟩ :: ts).Pairwise fun a b : Span =>
          a.start ≤ b.start :=
        List.pairwise_cons.2 ⟨fun u hu => hs u (List.mem_cons_of_mem _ hu), hts.tail⟩
      rw [ih hstretched, covers_cons, covers_cons, covers_cons, ← or_assoc]
      -- without a gap between them, the two are one span
      refine or_congr_left ?_
      simp only [Holds]
      omega
    · rw [covers_cons, covers_cons, ih hts]

theorem canonical_sweep (hne : ∀ t ∈ s :: ts, t.start < t.stop) : Canonical (sweep s ts) := by
  induction ts generalizing s with
  | nil => exact .one (hne s List.mem_cons_self)
  | cons t ts ih =>
    obtain ⟨hs, hts⟩ := List.pairwise_cons.1 h
    obtain ⟨hs0, hts0⟩ := List.forall_mem_cons.1 hne
    rw [sweep]
    split
    · refine ih (List.pairwise_cons.2 ⟨fun u hu => hs u (List.mem_cons_of_mem _ hu), hts.tail⟩) ?_
      refine List.forall_mem_cons.2 ⟨?_, (List.forall_mem_cons.1 hts0).2⟩
      simp only
      omega
    · rename_i hgap
      have hrest := ih hts hts0
      obtain ⟨stop, rest, he⟩ := sweep_head t ts
      rw [he] at hrest ⊢
      exact .cons hs0 (Int.not_le.1 hgap) hrest

end Sweep

theorem pairwise_sorted (ss : List Span) :
    (ss.mergeSort precedes).Pairwise fun a b => a.start ≤ b.start := by
  have hsorted : (ss.mergeSort precedes).Pairwise fun a b => precedes a b = true := by
    refine List.pairwise_mergeSort (fun a b c hab hbc => ?_) (fun a b => ?_) ss
    · simp only [precedes, Bool.or_eq_true, Bool.and_eq_true, decide_eq_true_eq] at hab hbc ⊢
      omega
    · simp only [precedes, Bool.or_eq_true, Bool.and_eq_true, decide_eq_true_eq]
      omega
  refine hsorted.imp fun {a b} hab => ?_
  simp only [precedes, Bool.or_eq_true, Bool.and_eq_true, decide_eq_true_eq] at hab
  omega

theorem mem_sorted {ss : List Span} {s : Span} :
    s ∈ (ss.filter fun s => s.start < s.stop).mergeSort precedes ↔
      s ∈ ss ∧ s.start < s.stop := by
  rw [(List.mergeSort_perm _ _).mem_iff, List.mem_filter, decide_eq_true_iff]

theorem covers_sorted (ss : List Span) (i : Int) :
    Covers ((ss.filter fun s => s.start < s.stop).mergeSort precedes) i ↔ Covers ss i := by
  constructor
  · rintro ⟨s, hs, hi⟩
    exact ⟨s, (mem_sorted.1 hs).1, hi⟩
  · rintro ⟨s, hs, hi⟩
    exact ⟨s, mem_sorted.2 ⟨hs, Int.lt_of_le_of_lt hi.1 hi.2⟩, hi⟩

theorem merge_eq_swept (ss : List Span) : merge ss = swept ss := by
  have hsorted := pairwise_sorted (ss.filter fun s => s.start < s.stop)
  have hcovers := covers_sorted ss
  have hne (s : Span) (hs : s ∈ (ss.filter fun s => s.start < s.stop).mergeSort precedes) :
      s.start < s.stop := (mem_sorted.1 hs).2
  rw [swept]
  split
  · rename_i he
    rw [he] at hcovers
    exact (canonical_merge ss).ext .nil fun i => (covers_merge ss i).trans (hcovers i).symm
  · rename_i s ts he
    rw [he] at hsorted hcovers hne
    refine (canonical_merge ss).ext (canonical_sweep hsorted hne) fun i => ?_
    rw [covers_merge, covers_sweep hsorted, hcovers]

/-- A canonical list is known by what it covers. -/
theorem Canonical.eq_iff {ss ts : List Span} (h : Canonical ss) {p : Int → Prop}
    (hp : ∀ i, Covers ss i ↔ p i) :
    ss = ts ↔ Canonical ts ∧ ∀ i, Covers ts i ↔ p i := by
  constructor
  · rintro rfl
    exact ⟨h, hp⟩
  · rintro ⟨ht, hcovers⟩
    exact h.ext ht fun i => (hp i).trans (hcovers i).symm

/-- **Merging and cutting are operations on sets of offsets.** The merged list is the one that a
sweep over the sorted spans gives, and it is the only list of non-empty spans, each ending before
the next one starts, that covers what the given spans cover: lists that cover the same offsets, and
only those, are merged to the same one. Cutting a stretch out gives the only such list that covers
all these offsets but those of the stretch. -/
theorem merge_eq_iff (ss : List Span) :
    merge ss = swept ss ∧
      (∀ ts, merge ss = ts ↔ Canonical ts ∧ ∀ i, Covers ts i ↔ Covers ss i) ∧
      (∀ ts, merge ss = merge ts ↔ ∀ i, Covers ss i ↔ Covers ts i) ∧
      ∀ start stop ts, subtract ss start stop = ts ↔
        Canonical ts ∧ ∀ i, Covers ts i ↔ Covers ss i ∧ ¬(start ≤ i ∧ i < stop) := by
  refine ⟨merge_eq_swept ss, fun ts => ?_, fun ts => ?_, fun start stop ts => ?_⟩
  · exact (canonical_merge ss).eq_iff (covers_merge ss)
  · rw [(canonical_merge ss).eq_iff (covers_merge ss)]
    simp only [canonical_merge, true_and, covers_merge]
    exact forall_congr' fun i => Iff.comm
  · exact (canonical_merge _).eq_iff (covers_subtract ss start stop)

end CitationStudio.Span
