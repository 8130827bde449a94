import CitationStudio.Proofs.Document.Cut

/-! # Places in a document

A place is a segment and so many characters of it; it lies at the offset that these make together
with the segments before. At an offset between two segments there is a place in either of them, and
one in each empty segment that is there too. The place that is looked up is in the first segment
that reaches the offset, since those before it have been passed over. A segment divided at a place
leaves a boundary at the offset, and is not divided where there is one. -/

namespace CitationStudio.Document

/-- The offset inside a document that is next to a given one. -/
def nearest (d : Document) (offset : Int) : Nat := (max 0 (min offset d.text.length)).toNat

/-- There is such a segment, it has so many characters, and with what comes before they make up the
offset. -/
def IsPlace (d : Document) (index inner offset : Nat) : Prop :=
  ∃ s, d[index]? = some s ∧ inner ≤ s.text.length ∧ (text (d.take index)).length + inner = offset

theorem isPlace_append (l : Document) {s : Segment} (r : Document) {inner : Nat}
    (h : inner ≤ s.text.length) :
    IsPlace (l ++ s :: r) l.length inner (l.text.length + inner) := by
  refine ⟨s, ?_, h, by rw [List.take_left' rfl]⟩
  rw [List.getElem?_append_right (Nat.le_refl _), Nat.sub_self, List.getElem?_cons_zero]

/-- The document on both sides of the segment of a place. -/
theorem IsPlace.exists_append {d : Document} {index inner offset : Nat}
    (h : d.IsPlace index inner offset) :
    ∃ (l : Document) (s : Segment) (r : Document), d = l ++ s :: r ∧ l.length = index ∧
      inner ≤ s.text.length ∧ l.text.length + inner = offset := by
  obtain ⟨s, hs, hle, hsum⟩ := h
  obtain ⟨hlt, hs⟩ := List.getElem?_eq_some_iff.1 hs
  refine ⟨d.take index, s, d.drop (index + 1), ?_, List.length_take_of_le (Nat.le_of_lt hlt), hle,
    hsum⟩
  rw [← hs, ← List.drop_eq_getElem_cons hlt, List.take_append_drop]

/-! ## The place that is looked up -/

theorem isPlace_locate {d : Document} (hd : d ≠ []) (offset : Int) :
    d.IsPlace (d.locate offset).1 (d.locate offset).2 (d.nearest offset) := by
  obtain ⟨l, s, r, inner, hd', hi, hle, hsum⟩ := locateFrom_spec 0 offset hd
  rw [Nat.zero_add] at hi
  have hnearest : d.nearest offset = l.text.length + inner := by
    rw [nearest, ← hsum]
    omega
  rw [locate, hi, hnearest, hd']
  exact isPlace_append l r hle

/-- The segments before it have been passed over, since they end before the offset. -/
theorem locateFrom_passed (index : Nat) {offset : Int} {d : Document} {j : Nat}
    (h : index + j < (d.locateFrom index offset).1) :
    ((text (d.take (j + 1))).length : Int) < offset := by
  fun_induction locateFrom index offset d generalizing j with
  | case1 => exact absurd h (Nat.not_lt_zero _)
  | case2 => exact absurd h (Nat.not_lt.2 (Nat.le_add_right _ _))
  | case3 => exact absurd h (Nat.not_lt.2 (Nat.le_add_right _ _))
  | case4 index offset s s' d hpast ih =>
    rw [List.take_succ_cons, text_head, List.length_append]
    cases j with
    | zero =>
      rw [List.take_zero, text_nil, List.length_nil]
      omega
    | succ j =>
      have hrest := ih (j := j) (by omega)
      omega

theorem length_text_take_succ {d : Document} {index : Nat} {s : Segment} (h : d[index]? = some s) :
    (text (d.take (index + 1))).length = (text (d.take index)).length + s.text.length := by
  rw [List.take_add_one, h, text_append, List.length_append]
  simp

/-- No place at an offset of the document is in an earlier segment. -/
theorem locate_le {d : Document} {offset : Int} (hle : offset ≤ d.text.length) {j p : Nat}
    (h : d.IsPlace j p (d.nearest offset)) : (d.locate offset).1 ≤ j := by
  obtain ⟨s, hs, hp, hsum⟩ := h
  refine Nat.le_of_not_lt fun hlt => ?_
  have hpassed := locateFrom_passed 0 (by rwa [Nat.zero_add])
  rw [length_text_take_succ hs] at hpassed
  unfold nearest at hsum
  omega

/-! ## Dividing at a place -/

theorem length_divided (s : Segment) (inner : Nat) :
    (s.divided inner).length = if inner = 0 ∨ s.text.length ≤ inner then 1 else 2 := by
  rw [Segment.divided]
  split <;> rfl

theorem not_hasCut_inside (l : Document) {s : Segment} (r : Document) {inner : Nat}
    (h0 : 0 < inner) (hlt : inner < s.text.length) :
    ¬ (l ++ s :: r).HasCut (l.text.length + inner) := by
  intro ⟨x, y, he, hx⟩
  rcases List.append_eq_append_iff.1 he with ⟨c, hxc, hc⟩ | ⟨c, hlc, -⟩
  · rw [hxc, text_append, List.length_append] at hx
    cases c with
    | nil =>
      rw [text_nil, List.length_nil] at hx
      omega
    | cons t c =>
      rw [text_head, List.length_append, ← (List.cons.inj hc).1] at hx
      omega
  · rw [hlc, text_append, List.length_append] at hx
    omega

section Divide

variable {d : Document} {index inner offset : Nat} (h : d.IsPlace index inner offset)
include h

theorem IsPlace.marked_splitRaw : (d.splitRaw index inner).marked = d.marked := by
  obtain ⟨l, s, r, rfl, rfl, -, -⟩ := h.exists_append
  rw [splitRaw_append, marked_append_divided]

theorem IsPlace.hasCut_splitRaw : (d.splitRaw index inner).HasCut offset := by
  obtain ⟨l, s, r, rfl, rfl, hle, rfl⟩ := h.exists_append
  rw [splitRaw_append]
  exact hasCut_divided l r hle

/-- Where there is a boundary, nothing is divided. -/
theorem IsPlace.splitRaw_eq_self (hcut : d.HasCut offset) : d.splitRaw index inner = d := by
  obtain ⟨l, s, r, rfl, rfl, -, rfl⟩ := h.exists_append
  have hends : inner = 0 ∨ s.text.length ≤ inner := by
    refine Decidable.byContradiction fun hinside => ?_
    exact not_hasCut_inside l r (by omega) (by omega) hcut
  rw [splitRaw_append, Segment.divided, if_pos hends, ← List.append_cons]

theorem IsPlace.length_splitRaw (hcut : ¬ d.HasCut offset) :
    (d.splitRaw index inner).length = d.length + 1 := by
  have hnew := h.hasCut_splitRaw
  obtain ⟨l, s, r, rfl, rfl, hle, rfl⟩ := h.exists_append
  rw [splitRaw_append] at hnew ⊢
  have hinside : ¬ (inner = 0 ∨ s.text.length ≤ inner) := by
    intro hends
    rw [Segment.divided, if_pos hends, ← List.append_cons] at hnew
    exact hcut hnew
  rw [List.length_append, List.length_append, length_divided, if_neg hinside, List.length_append,
    List.length_cons]
  omega

end Divide

/-- **An offset is found in the first segment that reaches it.** In a document that has segments,
empty ones and equal neighbours among them, the place that is looked up for an offset lies there, or
at the end of the document that the offset is beyond; unless that is the last end, no earlier
segment has such a place. Dividing the document there changes no character and no kind, and leaves a
boundary at the offset; it makes one segment more where there was no boundary, and changes nothing
where there was. -/
theorem locate_split {d : Document} (hd : d ≠ []) (offset : Int) :
    let n := d.nearest offset
    let place := d.locate offset
    let e := d.splitRaw place.1 place.2
    d.IsPlace place.1 place.2 n ∧
      (offset ≤ d.text.length → ∀ index inner, d.IsPlace index inner n → place.1 ≤ index) ∧
      e.marked = d.marked ∧ e.HasCut n ∧
      (d.HasCut n → e = d) ∧ (¬ d.HasCut n → e.length = d.length + 1) := by
  intro n place e
  have hplace := isPlace_locate hd offset
  exact ⟨hplace, fun hle _ _ h => locate_le hle h, hplace.marked_splitRaw, hplace.hasCut_splitRaw,
    hplace.splitRaw_eq_self, hplace.length_splitRaw⟩

/-- Between the first two segments there is nothing to divide; one character behind that is the
middle of the last segment, which an empty one comes before. -/
theorem locate_split_empty :
    let d : Document := [⟨Segment.literal, "ab".toList⟩, ⟨Segment.expr, []⟩,
      ⟨Segment.expr, "cd".toList⟩]
    d ≠ [] ∧ d.locate 2 = (0, 2) ∧ d.splitRaw 0 2 = d ∧ d.locate 3 = (2, 1) ∧
      (d.splitRaw 2 1).marked = d.marked ∧ (d.splitRaw 2 1).HasCut 3 ∧
      ∀ index inner, d.IsPlace index inner 3 → 2 ≤ index := by
  intro d
  have hd : d ≠ [] := List.cons_ne_nil _ _
  have h2 : d.locate 2 = (0, 2) := by decide
  have h3 : d.locate 3 = (2, 1) := by decide
  have hcut : d.HasCut 2 := ⟨d.take 1, d.drop 1, rfl, by decide⟩
  obtain ⟨-, -, -, -, hsame, -⟩ := locate_split hd 2
  obtain ⟨-, hleast, hmarked, hboundary, -, -⟩ := locate_split hd 3
  rw [h2] at hsame
  rw [h3] at hleast hmarked hboundary
  exact ⟨hd, h2, hsame hcut, h3, hmarked, hboundary, hleast (by decide)⟩

end CitationStudio.Document
