import CitationStudio.Fold.Basic
import CitationStudio.Proofs.Span.Cover

/-! # Replacing a stretch that no span cuts

A span is cut by a stretch that it overlaps without being around it. Where no span is cut, all
offsets of the stretch are alike, so that what is put in the place of the stretch can be said to
come from its start, and every other offset comes from the one it was moved from. An offset is then
covered if the one that it comes from was. Two stretches that lie apart are replaced in either order
with the same result, because both ways every offset comes from the same one. -/

namespace CitationStudio.Span

/-- No span overlaps a stretch without being around it. -/
def Uncut (ss : List Span) (a b : Nat) : Prop := ∀ s ∈ ss, FoldedText.cutsSpan a b s = false

theorem around_of_uncut {ss : List Span} {a b : Nat} (h : Uncut ss a b) {s : Span} (hs : s ∈ ss)
    (hb : s.start < b) (ha : a < s.stop) : s.Around a b := by
  have hc := h s hs
  simp only [FoldedText.cutsSpan, hb, ha, decide_true, Bool.true_and, Bool.not_eq_false',
    Bool.and_eq_true, decide_eq_true_eq] at hc
  exact ⟨hb, ha, hc⟩

/-- A stretch that no span cuts is of one kind. -/
theorem covers_uncut {ss : List Span} {a b : Nat} (h : Uncut ss a b) {i : Int} (ha : a ≤ i)
    (hb : i < b) : Covers ss i ↔ ∃ s ∈ ss, s.Around a b := by
  constructor
  · rintro ⟨s, hs, hi⟩
    simp only [Holds] at hi
    exact ⟨s, hs, around_of_uncut h hs (by omega) (by omega)⟩
  · rintro ⟨s, hs, har⟩
    simp only [Around] at har
    exact ⟨s, hs, by simp only [Holds]; omega⟩

/-- No span of a canonical list is cut if and only if no neighbours in the stretch differ. -/
theorem Canonical.uncut_iff {ss : List Span} (h : Canonical ss) {a b : Nat} : Uncut ss a b ↔
    ∀ i : Int, a ≤ i → i + 1 < b → (Covers ss i ↔ Covers ss (i + 1)) := by
  constructor
  · intro hu i ha hb
    exact (covers_uncut hu ha (by omega)).trans (covers_uncut hu (by omega) hb).symm
  · intro halike s hs
    have hlt := h.nonempty hs
    -- an end inside the stretch would make the offsets on both sides of it differ
    have hend (i : Int) (ha : a < i) (hb : i < b) : s.start ≠ i ∧ s.stop ≠ i := by
      have hi := (h.covers_next (i - 1)).1 (halike (i - 1) (by omega) (by omega)) s hs
      rwa [Int.sub_add_cancel] at hi
    have hstart := hend s.start
    have hstop := hend s.stop
    simp only [FoldedText.cutsSpan, Bool.and_eq_false_iff, decide_eq_false_iff_not,
      Bool.not_eq_false', Bool.and_eq_true, decide_eq_true_eq]
    omega

theorem canonical_remap (ss : List Span) (a b added : Int) : Canonical (remap ss a b added) :=
  canonical_merge _

/-- The offset that an offset comes from, when so many characters have been put in the place of the
stretch from `a` to before `b`. -/
def source (a b added i : Int) : Int :=
  if i < a then i else if i < a + added then a else i - added + (b - a)

theorem covers_remap_source {ss : List Span} {a b : Nat} (hu : Uncut ss a b) (hab : a < b)
    {added : Int} (hl : 0 ≤ added) (i : Int) :
    Covers (remap ss a b added) i ↔ Covers ss (source a b added i) := by
  have hle : (a : Int) ≤ b := by omega
  unfold source
  split
  · rename_i hi
    exact covers_remap_before ss hle hl hi
  · split
    · rename_i ha hi
      rw [covers_remap_inside ss hle hl (by omega) hi, covers_uncut hu (Int.le_refl _) (by omega)]
    · rename_i ha hi
      have h := covers_remap_after ss hle hl (i := i - (a + added)) (by omega)
      rwa [Int.sub_add_cancel, show i - (a + added) + b = i - added + (b - a) by omega] at h

theorem uncut_remap_before {ss : List Span} (h : Canonical ss) {a b : Nat} (hu : Uncut ss a b)
    {c d added : Int} (hbc : b ≤ c) (hcd : c ≤ d) (hl : 0 ≤ added) :
    Uncut (remap ss c d added) a b := by
  refine (canonical_remap ..).uncut_iff.2 fun i ha hb => ?_
  exact (covers_remap_before ss hcd hl (by omega)).trans
    ((h.uncut_iff.1 hu i ha hb).trans (covers_remap_before ss hcd hl (by omega)).symm)

theorem uncut_remap_after {ss : List Span} (h : Canonical ss) {a b x y added : Nat} (hab : a ≤ b)
    (hu : Uncut ss (b + x) (b + y)) :
    Uncut (remap ss a b added) (a + added + x) (a + added + y) := by
  have hle : (a : Int) ≤ b := by omega
  refine (canonical_remap ..).uncut_iff.2 fun i hx hy => ?_
  have hafter (i : Int) (hi : a + added ≤ i) := covers_remap_after ss hle
    (Int.natCast_nonneg added) (i := i - (a + added)) (by omega)
  have h0 := hafter i (by omega)
  have h1 := hafter (i + 1) (by omega)
  rw [Int.sub_add_cancel] at h0 h1
  rw [show i + 1 - (a + added) + b = i - (a + added) + b + 1 by omega] at h1
  exact h0.trans ((h.uncut_iff.1 hu _ (by omega) (by omega)).trans h1.symm)

/-- **Stretches that lie apart are replaced in either order.** The second one is found where the
first has moved it. -/
theorem remap_comm {ss : List Span} (h : Canonical ss) {a b x y : Nat} (hab : a < b) (hxy : x < y)
    (hu : Uncut ss a b) (hu' : Uncut ss (b + x) (b + y)) (added added' : Nat) :
    remap (remap ss ↑(b + x) ↑(b + y) added') a b added =
      remap (remap ss a b added) ↑(a + added + x) ↑(a + added + y) added' := by
  have hbefore : Uncut (remap ss ↑(b + x) ↑(b + y) added') a b :=
    uncut_remap_before h hu (by omega) (by omega) (by omega)
  have hafter : Uncut (remap ss a b added) (a + added + x) (a + added + y) :=
    uncut_remap_after h (by omega) hu'
  refine (canonical_remap ..).ext (canonical_remap ..) fun i => ?_
  rw [covers_remap_source hbefore hab (by omega),
    covers_remap_source hu' (by omega) (by omega), covers_remap_source hafter (by omega) (by omega),
    covers_remap_source hu hab (by omega)]
  have hsource : source ↑(b + x) ↑(b + y) added' (source a b added i) =
      source a b added (source ↑(a + added + x) ↑(a + added + y) added' i) := by
    simp only [source]
    omega
  rw [hsource]

end CitationStudio.Span
