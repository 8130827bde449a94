import CitationStudio.Proofs.Document.Marked

/-! # Marking a stretch of a document

A document is marked by two cuts, at the ends of the stretch, and by giving the kind to the
segments between them. A cut divides one segment at most; it changes no character, and the cuts
that were there stay. So a character gets the kind if its offset lies in the stretch, however the
document was cut into segments before. -/

namespace CitationStudio

namespace Segment

/-- A segment divided at an offset, unless one of the two would be empty. -/
def divided (s : Segment) (inner : Nat) : Document :=
  if inner = 0 ∨ s.text.length ≤ inner then [s]
  else [⟨s.kind, s.text.take inner⟩, ⟨s.kind, s.text.drop inner⟩]

end Segment

namespace Document

theorem marked_divided (s : Segment) (inner : Nat) : (s.divided inner).marked = marked [s] := by
  rw [Segment.divided]
  split
  · rfl
  · simp only [marked_head]
    rw [← List.append_assoc, ← List.map_append, List.take_append_drop]

theorem marked_append_divided (l : Document) (s : Segment) (r : Document) (inner : Nat) :
    (l ++ s.divided inner ++ r).marked = (l ++ s :: r).marked := by
  rw [List.append_cons, marked_append, marked_append, marked_append, marked_append, marked_divided]

/-! ## Cutting -/

/-- An offset is found in one segment, so far inside it that it comes after what comes before. -/
theorem locateFrom_spec (index : Nat) (offset : Int) {d : Document} (hd : d ≠ []) :
    ∃ (l : Document) (s : Segment) (r : Document) (inner : Nat), d = l ++ s :: r ∧
      d.locateFrom index offset = (index + l.length, inner) ∧ inner ≤ s.text.length ∧
      (l.text.length + inner : Int) = max 0 (min offset d.text.length) := by
  fun_induction locateFrom index offset d with
  | case1 => exact absurd rfl hd
  | case2 index offset s =>
    refine ⟨[], s, [], _, rfl, rfl, by omega, ?_⟩
    simp only [text_head, text_nil, List.length_append, List.length_nil]
    omega
  | case3 index offset s s' d h =>
    refine ⟨[], s, s' :: d, _, rfl, rfl, by omega, ?_⟩
    simp only [text_head, text_nil, List.length_append, List.length_nil]
    omega
  | case4 index offset s s' d h ih =>
    obtain ⟨l, t, r, inner, hd', hi, hle, hsum⟩ := ih (List.cons_ne_nil _ _)
    refine ⟨s :: l, t, r, inner, by rw [hd', List.cons_append], ?_, hle, ?_⟩
    · rw [hi, List.length_cons, Nat.add_assoc, Nat.add_comm 1]
    · rw [text_head s l, text_head s, List.length_append, List.length_append]
      omega

theorem splitRaw_append (l : Document) (s : Segment) (r : Document) (inner : Nat) :
    splitRaw (l ++ s :: r) l.length inner = l ++ s.divided inner ++ r := by
  have hs : (l ++ s :: r)[(l.length : Int).toNat]? = some s := by
    rw [Int.toNat_natCast, List.getElem?_append_right (Nat.le_refl _), Nat.sub_self]
    rfl
  rw [splitRaw, if_neg (by omega), hs, Segment.divided]
  by_cases h : inner = 0 ∨ s.text.length ≤ inner
  · simp only [if_pos h, if_pos (show (inner : Int) ≤ 0 ∨ (s.text.length : Int) ≤ inner by omega)]
    rw [List.append_assoc]
    rfl
  · simp only [if_neg h, Int.toNat_natCast,
      if_neg (show ¬ ((inner : Int) ≤ 0 ∨ (s.text.length : Int) ≤ inner) by omega)]
    rw [List.take_left' rfl, ← List.drop_drop, List.drop_left' rfl, List.append_assoc]
    rfl

/-- A cut divides the segment that the offset is found in. -/
theorem cutAt_spec (offset : Int) {d : Document} (hd : d ≠ []) :
    ∃ (l : Document) (s : Segment) (r : Document) (inner : Nat), d = l ++ s :: r ∧
      d.cutAt offset = l ++ s.divided inner ++ r ∧ inner ≤ s.text.length ∧
      (l.text.length + inner : Int) = max 0 (min offset d.text.length) := by
  obtain ⟨l, s, r, inner, hd', hi, hle, hsum⟩ := locateFrom_spec 0 offset hd
  refine ⟨l, s, r, inner, hd', ?_, hle, hsum⟩
  rw [cutAt, locate, hi]
  dsimp only
  rw [Nat.zero_add, hd', splitRaw_append]

theorem cutAt_nil (offset : Int) : cutAt [] offset = [] := rfl

theorem marked_cutAt (d : Document) (offset : Int) : (d.cutAt offset).marked = d.marked := by
  by_cases hd : d = []
  · rw [hd, cutAt_nil]
  · obtain ⟨l, s, r, inner, hd', hc, -, -⟩ := cutAt_spec offset hd
    rw [hc, hd', marked_append_divided]

theorem text_cutAt (d : Document) (offset : Int) : (d.cutAt offset).text = d.text := by
  rw [← map_fst_marked, marked_cutAt, map_fst_marked]

/-- No segment goes across an offset. -/
def HasCut (d : Document) (offset : Nat) : Prop := ∃ l r, d = l ++ r ∧ l.text.length = offset

theorem hasCut_divided (l : Document) {s : Segment} (r : Document) {inner : Nat}
    (h : inner ≤ s.text.length) : (l ++ s.divided inner ++ r).HasCut (l.text.length + inner) := by
  rw [Segment.divided]
  by_cases h0 : inner = 0
  · rw [if_pos (.inl h0)]
    exact ⟨l, [s] ++ r, List.append_assoc .., by omega⟩
  · by_cases hn : s.text.length ≤ inner
    · rw [if_pos (.inr hn)]
      refine ⟨l ++ [s], r, rfl, ?_⟩
      simp only [text_append, text_head, text_nil, List.length_append, List.length_nil]
      omega
    · rw [if_neg (by omega)]
      refine ⟨l ++ [⟨s.kind, s.text.take inner⟩], ⟨s.kind, s.text.drop inner⟩ :: r, ?_, ?_⟩
      · rw [List.append_assoc, List.append_assoc]
        rfl
      · simp only [text_append, text_head, text_nil, List.length_append, List.length_nil,
          List.length_take]
        omega

theorem hasCut_cutAt {d : Document} {offset : Nat} (h : offset ≤ d.text.length) :
    (d.cutAt offset).HasCut offset := by
  by_cases hd : d = []
  · subst hd
    exact ⟨[], [], rfl, (Nat.le_zero.1 h).symm⟩
  · obtain ⟨l, s, r, inner, -, hc, hle, hsum⟩ := cutAt_spec offset hd
    have hoffset : l.text.length + inner = offset := by omega
    rw [hc, ← hoffset]
    exact hasCut_divided l r hle

theorem HasCut.cutAt {d : Document} {n : Nat} (h : d.HasCut n) (offset : Int) :
    (d.cutAt offset).HasCut n := by
  obtain ⟨l, r, rfl, hn⟩ := h
  by_cases hd : l ++ r = []
  · rw [hd, cutAt_nil]
    rw [(List.append_eq_nil_iff.1 hd).1] at hn
    exact ⟨[], [], rfl, hn⟩
  · obtain ⟨x, s, y, inner, he, hc, -, -⟩ := cutAt_spec offset hd
    rw [hc]
    rcases List.append_eq_append_iff.1 he with ⟨c, rfl, rfl⟩ | ⟨c, rfl, hy⟩
    · exact ⟨l, c ++ s.divided inner ++ y, by simp only [List.append_assoc], hn⟩
    · cases c with
      | nil =>
        rw [List.append_nil] at hn
        exact ⟨x, s.divided inner ++ y, by rw [List.append_assoc], hn⟩
      | cons t c =>
        obtain ⟨rfl, rfl⟩ := List.cons.inj hy
        refine ⟨x ++ s.divided inner ++ c, r, (List.append_assoc ..).symm, ?_⟩
        rw [← hn, ← length_marked, ← length_marked, marked_append_divided]

/-- Two cuts make three documents of one. -/
theorem exists_three {d : Document} {a b : Nat} (ha : d.HasCut a) (hb : d.HasCut b) (hab : a ≤ b) :
    ∃ x y z, d = x ++ y ++ z ∧ x.text.length = a ∧ (x ++ y).text.length = b := by
  obtain ⟨l, r, rfl, hl⟩ := ha
  obtain ⟨l', r', he, hl'⟩ := hb
  rcases List.append_eq_append_iff.1 he with ⟨c, rfl, rfl⟩ | ⟨c, rfl, rfl⟩
  · exact ⟨l, c, r', by rw [List.append_assoc], hl, hl'⟩
  · -- the text between the cuts is empty
    rw [text_append, List.length_append] at hl
    exact ⟨l', [], c ++ r, by rw [List.append_assoc, List.append_nil], by omega,
      by rw [List.append_nil]; omega⟩

/-! ## Retyping -/

section Retype

variable (kind : Text) {start stop : Int}

theorem retype_head (cursor : Int) (s : Segment) (d : Document) :
    retype kind start stop cursor (s :: d) =
      (if 0 < s.text.length ∧ start ≤ cursor ∧ cursor + s.text.length ≤ stop then ⟨kind, s.text⟩
        else s) :: retype kind start stop (cursor + s.text.length) d := by
  simp only [retype, Bool.and_eq_true, Bool.not_eq_true', List.isEmpty_eq_false_iff,
    ← List.length_pos_iff, decide_eq_true_eq, and_assoc]

theorem retype_append (cursor : Int) (d e : Document) : retype kind start stop cursor (d ++ e) =
    retype kind start stop cursor d ++ retype kind start stop (cursor + d.text.length) e := by
  induction d generalizing cursor with
  | nil => simp [retype]
  | cons s d ih =>
    rw [List.cons_append, retype_head, retype_head, ih, text_head, List.length_append,
      List.cons_append, Int.add_assoc cursor]
    rfl

theorem retype_before {cursor : Int} {d : Document} (h : cursor + d.text.length ≤ start) :
    retype kind start stop cursor d = d := by
  induction d generalizing cursor with
  | nil => rfl
  | cons s d ih =>
    rw [text_head, List.length_append] at h
    rw [retype_head, ih (by omega), if_neg (by omega)]

theorem retype_after {cursor : Int} {d : Document} (h : stop ≤ cursor) :
    retype kind start stop cursor d = d := by
  induction d generalizing cursor with
  | nil => rfl
  | cons s d ih =>
    rw [retype_head, ih (by omega), if_neg (by omega)]

theorem marked_retype_between {cursor : Int} {d : Document} (ha : start ≤ cursor)
    (hb : cursor + d.text.length ≤ stop) : (retype kind start stop cursor d).marked =
      d.marked.map fun p => (p.1, kind) := by
  induction d generalizing cursor with
  | nil => rfl
  | cons s d ih =>
    rw [text_head, List.length_append] at hb
    rw [retype_head, marked_head, marked_head, List.map_append, ih (by omega) (by omega)]
    congr 1
    by_cases hs : 0 < s.text.length
    · rw [if_pos ⟨hs, by omega, by omega⟩, List.map_map]
      rfl
    · rw [if_neg fun h => hs h.1, List.eq_nil_of_length_eq_zero (Nat.eq_zero_of_not_pos hs)]
      rfl

end Retype

theorem getElem?_change {α : Type} (g : α → α) (x y z : List α) (i : Nat) :
    (x ++ y.map g ++ z)[i]? =
      (x ++ y ++ z)[i]?.map fun p => if x.length ≤ i ∧ i < (x ++ y).length then g p else p := by
  simp only [List.getElem?_append, List.length_append, List.length_map, List.getElem?_map]
  by_cases hx : i < x.length
  · have h : ¬ (x.length ≤ i ∧ i < x.length + y.length) := by omega
    simp only [hx, if_pos (show i < x.length + y.length by omega), if_pos, h, if_false,
      Option.map_id']
  · by_cases hy : i < x.length + y.length
    · simp only [hx, hy, if_true, if_false, Nat.le_of_not_lt hx, and_self]
    · simp only [hy, if_false, and_false, Option.map_id']

/-- Between two cuts every character gets the kind, and no other does. -/
theorem marked_retype (kind : Text) {d : Document} {a b : Nat} (ha : d.HasCut a) (hb : d.HasCut b)
    (hab : a ≤ b) (i : Nat) : (retype kind a b 0 d).marked[i]? =
      d.marked[i]?.map fun p => if a ≤ i ∧ i < b then (p.1, kind) else p := by
  obtain ⟨x, y, z, rfl, hx, hy⟩ := exists_three ha hb hab
  have hx' : x.marked.length = a := by rw [length_marked, hx]
  have hy' : (x.marked ++ y.marked).length = b := by rw [← marked_append, length_marked, hy]
  rw [text_append, List.length_append] at hy
  have hbefore : retype kind a b 0 x = x := retype_before kind (by omega)
  have hbetween : (retype kind a b (0 + x.text.length) y).marked =
      y.marked.map fun p => (p.1, kind) := marked_retype_between kind (by omega) (by omega)
  have hafter : retype kind a b (0 + (x ++ y).text.length) z = z :=
    retype_after kind (by rw [text_append, List.length_append]; omega)
  rw [retype_append kind 0 (x ++ y), retype_append kind 0 x, hbefore, hafter, marked_append,
    marked_append, hbetween, marked_append, marked_append, getElem?_change, hx', hy']

/-- **Marking reaches the characters of the stretch**: these get the kind, and all others keep
theirs. -/
theorem marked_markKnown (d : Document) (start stop : Int) (kind : Text) (i : Nat) :
    (d.markKnown start stop kind).marked[i]? = d.marked[i]?.map fun p =>
      if min start stop ≤ i ∧ i < max start stop then (p.1, kind) else p := by
  obtain ⟨a, ha⟩ := Int.eq_ofNat_of_zero_le
    (Int.le_max_left 0 (min (min start stop) (d.text.length : Int)))
  obtain ⟨b, hb⟩ := Int.eq_ofNat_of_zero_le
    (Int.le_max_left 0 (min (max start stop) (d.text.length : Int)))
  have hmark : (d.markKnown start stop kind).marked[i]? =
      d.marked[i]?.map fun p => if a ≤ i ∧ i < b then (p.1, kind) else p := by
    rw [markKnown, ha, hb]
    split
    · have h : ¬ (a ≤ i ∧ i < b) := by omega
      simp only [marked_normalize, h, if_false, Option.map_id']
    · have hcut : ((d.cutAt b).cutAt a).HasCut a :=
        hasCut_cutAt (by rw [text_cutAt]; omega)
      have hcut' : ((d.cutAt b).cutAt a).HasCut b := (hasCut_cutAt (by omega)).cutAt a
      rw [marked_normalize, marked_retype kind hcut hcut' (by omega), marked_cutAt, marked_cutAt]
  rw [hmark]
  -- where there is a character, it does not matter that the ends were moved into the document
  refine Option.map_congr fun p hp => ?_
  have hi := (List.getElem?_eq_some_iff.1 hp).1
  rw [length_marked] at hi
  have hin : (a ≤ i ∧ i < b) ↔ (min start stop ≤ i ∧ i < max start stop) := by omega
  simp only [hin]

theorem isNormal_markKnown (d : Document) (start stop : Int) (kind : Text) :
    (d.markKnown start stop kind).isNormal = true := by
  unfold markKnown
  dsimp only
  split
  · exact isNormal_normalize _
  · exact isNormal_normalize _

/-- A normal document of the same text, in which the characters of a stretch, whichever end of it
comes first, are of a kind, and the others are of the kinds they had. -/
structure Retyped (d : Document) (start stop : Int) (kind : Text) (d' : Document) : Prop where
  normal : d'.isNormal = true
  text : d'.text = d.text
  inside : ∀ i : Nat, i < d.text.length → min start stop ≤ i → i < max start stop →
    d'.kind? i = some kind
  outside : ∀ i : Nat, ¬ (min start stop ≤ i ∧ i < max start stop) → d'.kind? i = d.kind? i

/-- There is one such document at most. -/
theorem Retyped.unique {d e e' : Document} {start stop : Int} {kind : Text}
    (h : d.Retyped start stop kind e) (h' : d.Retyped start stop kind e') : e = e' := by
  refine eq_of_kinds h.normal h'.normal (h.text.trans h'.text.symm) fun i => ?_
  by_cases hi : min start stop ≤ i ∧ i < max start stop
  · by_cases hlt : i < d.text.length
    · rw [h.inside i hlt hi.1 hi.2, h'.inside i hlt hi.1 hi.2]
    · have hnone (x : Document) (hx : x.text = d.text) : x.kind? i = none := by
        rw [kind?, List.getElem?_eq_none (by rw [length_marked, hx]; omega), Option.map_none]
      rw [hnone e h.text, hnone e' h'.text]
  · rw [h.outside i hi, h'.outside i hi]

theorem retyped_markKnown (d : Document) (start stop : Int) (kind : Text) :
    d.Retyped start stop kind (d.markKnown start stop kind) where
  normal := isNormal_markKnown ..
  text := by
    have hsame : (d.markKnown start stop kind).marked.map Prod.fst = d.marked.map Prod.fst := by
      apply List.ext_getElem?
      intro i
      rw [List.getElem?_map, List.getElem?_map, marked_markKnown, Option.map_map]
      congr 1
      funext p
      simp only [Function.comp_apply]
      split <;> rfl
    rw [← map_fst_marked, hsame, map_fst_marked]
  inside i hlt ha hb := by
    obtain ⟨p, hp⟩ : ∃ p, d.marked[i]? = some p :=
      ⟨_, List.getElem?_eq_getElem (by rwa [length_marked])⟩
    rw [kind?, marked_markKnown, hp, Option.map_some, if_pos ⟨ha, hb⟩, Option.map_some]
  outside i hi := by
    simp only [kind?, marked_markKnown, if_neg hi, Option.map_id']

/-- **A mark is exact.** Whatever segments a document is made of, and wherever the two ends of a
stretch are, marking it as literal or as an expression gives the normal document of the same text in
which the characters of the stretch are of that kind and all others of the kinds they had. -/
theorem mark_retyped (d : Document) (start stop : Int) {kind : Text}
    (hkind : kind = Segment.literal ∨ kind = Segment.expr) :
    ∃ d', d.mark start stop kind = .ok d' ∧ d.Retyped start stop kind d' ∧
      ∀ e, d.Retyped start stop kind e → e = d' := by
  have hretyped := retyped_markKnown d start stop kind
  refine ⟨d.markKnown start stop kind, ?_, hretyped, fun e he => he.unique hretyped⟩
  rw [mark, if_pos hkind]

/-- The stretch starts inside a segment, goes over an empty one and over neighbours of an unknown
kind, and ends behind the text, the later end first. -/
theorem mark_retyped_unnormalized :
    let d : Document := [⟨Segment.literal, "ab".toList⟩, ⟨"note".toList, []⟩,
      ⟨"note".toList, "c".toList⟩, ⟨"note".toList, "d".toList⟩]
    let d' : Document := [⟨Segment.literal, "a".toList⟩, ⟨Segment.expr, "bcd".toList⟩]
    (Segment.expr = Segment.literal ∨ Segment.expr = Segment.expr) ∧
      d.mark 9 1 Segment.expr = .ok d' ∧ d.Retyped 9 1 Segment.expr d' := by
  intro d d'
  have hkind : Segment.expr = Segment.literal ∨ Segment.expr = Segment.expr := .inr rfl
  have hknown : d.markKnown 9 1 Segment.expr = d' := by decide +kernel
  have hmark : d.mark 9 1 Segment.expr = .ok d' := by rw [mark, if_pos hkind, hknown]
  obtain ⟨e, he, hretyped, -⟩ := mark_retyped d 9 1 hkind
  obtain rfl : d' = e := Except.ok.inj (hmark.symm.trans he)
  exact ⟨hkind, hmark, hretyped⟩

end Document

end CitationStudio
