import CitationStudio.Proofs.Document.Marked
import CitationStudio.Proofs.Fold.Sound

/-! # The character that decides

Marks are set on the buffer, but the document is made of the expanded text. A mark goes over a
character of the expanded text if it goes over the character of the buffer that owns it: the
character itself where nothing is folded, and the last one of the token for what is folded away.
Offsets and owners are adjoint, from which the whole correspondence follows. -/

namespace CitationStudio

namespace Fold.Glyph

/-- The owner of each character of the expanded text, the first glyph being at `offset`. A token
without a piece is text of the buffer like any other. -/
def ownersFrom (offset : Nat) : List Glyph → List Text → List Nat
  | [], _ => []
  | token :: gs, p :: ps =>
    List.replicate p.length (offset + 2) ++ ownersFrom (offset + 3) gs ps
  | token :: gs, [] =>
    offset :: (offset + 1) :: (offset + 2) :: ownersFrom (offset + 3) gs []
  | char _ :: gs, ps => offset :: ownersFrom (offset + 1) gs ps

theorem ownersFrom_length (offset : Nat) (gs : List Glyph) (ps : List Text) :
    (ownersFrom offset gs ps).length = (expand gs ps).length := by
  fun_induction ownersFrom offset gs ps with
  | case1 => rfl
  | case2 offset gs p ps ih =>
    rw [expand_piece, List.length_append, List.length_append, List.length_replicate, ih]
  | case3 offset gs ih =>
    rw [expand_orphan, List.length_append, List.length_cons, List.length_cons, List.length_cons, ih]
    exact Nat.add_comm _ 3
  | case4 offset c gs ps ih => rw [expand, List.length_cons, List.length_cons, ih]

/-- The owners lie inside the glyphs. -/
theorem mem_ownersFrom {offset w : Nat} {gs : List Glyph} {ps : List Text}
    (h : w ∈ ownersFrom offset gs ps) : offset ≤ w ∧ w < offset + width gs := by
  fun_induction ownersFrom offset gs ps with
  | case1 => cases h
  | case2 offset gs p ps ih =>
    rw [width]
    rcases List.mem_append.1 h with h | h
    · have := List.eq_of_mem_replicate h
      omega
    · have := ih h
      omega
  | case3 offset gs ih =>
    rw [width]
    simp only [List.mem_cons] at h
    rcases h with h | h | h | h
    · omega
    · omega
    · omega
    · have := ih h
      omega
  | case4 offset c gs ps ih =>
    rw [width]
    rcases List.mem_cons.1 h with h | h
    · omega
    · have := ih h
      omega

theorem ownersFrom_shift (offset shift : Nat) (gs : List Glyph) (ps : List Text) :
    ownersFrom (offset + shift) gs ps = (ownersFrom offset gs ps).map (· + shift) := by
  fun_induction ownersFrom offset gs ps with
  | case1 => rfl
  | case2 offset gs p ps ih =>
    rw [List.map_append, List.map_replicate, ← ih, ownersFrom, Nat.add_right_comm offset 2,
      Nat.add_right_comm offset 3]
  | case3 offset gs ih =>
    rw [List.map_cons, List.map_cons, List.map_cons, ← ih, ownersFrom, Nat.add_right_comm offset 1,
      Nat.add_right_comm offset 2, Nat.add_right_comm offset 3]
  | case4 offset c gs ps ih => rw [List.map_cons, ← ih, ownersFrom, Nat.add_right_comm offset 1]

theorem ownersFrom_zero (offset : Nat) (gs : List Glyph) (ps : List Text) :
    ownersFrom offset gs ps = (ownersFrom 0 gs ps).map (· + offset) := by
  rw [← ownersFrom_shift, Nat.zero_add]

theorem ownersFrom_append (offset : Nat) (gs hs : List Glyph) (ps : List Text) :
    ownersFrom offset (gs ++ hs) ps = ownersFrom offset gs ps ++
      ownersFrom (offset + width gs) hs (ps.drop (count gs)) := by
  fun_induction ownersFrom offset gs ps with
  | case1 => rfl
  | case2 offset gs p ps ih =>
    rw [List.cons_append, ownersFrom, ih, width, count, List.drop_succ_cons, List.append_assoc,
      Nat.add_comm (width gs), Nat.add_assoc offset]
  | case3 offset gs ih =>
    rw [List.cons_append, ownersFrom, ih, width, Nat.add_comm (width gs), ← Nat.add_assoc,
      List.drop_nil, List.drop_nil]
    rfl
  | case4 offset c gs ps ih =>
    rw [List.cons_append, ownersFrom, ih, width, count, Nat.add_comm (width gs), ← Nat.add_assoc]
    rfl

theorem ownersFrom_take (offset : Nat) (gs : List Glyph) (ps : List Text) :
    ownersFrom offset gs (ps.take (count gs)) = ownersFrom offset gs ps := by
  fun_induction ownersFrom offset gs ps with
  | case1 => rfl
  | case2 offset gs p ps ih => rw [count, List.take_succ_cons, ownersFrom, ih]
  | case3 offset gs ih => rw [List.take_nil, ownersFrom]
  | case4 offset c gs ps ih => rw [count, ownersFrom, ih]

theorem ownersFrom_chars (offset : Nat) (t : Text) (ps : List Text) :
    ownersFrom offset (chars t) ps = List.range' offset t.length := by
  induction t generalizing offset with
  | nil => rfl
  | cons c t ih => rw [chars_cons, ownersFrom, ih, List.length_cons, List.range'_succ]

/-- Offsets in the expanded text and owners in the buffer, counted from a place: a character of
the expanded text comes at or after an offset if its owner does. -/
structure Adjoint (length offset : Nat) (offsets owners : List Nat) : Prop where
  le_offset : ∀ x ∈ offsets, length ≤ x
  le_owner : ∀ w ∈ owners, offset ≤ w
  le_iff : ∀ i j x w, offsets[i]? = some x → owners[j]? = some w →
    (x ≤ length + j ↔ offset + i ≤ w)

theorem Adjoint.char {length offset : Nat} {xs ws : List Nat}
    (h : Adjoint (length + 1) (offset + 1) xs ws) :
    Adjoint length offset (length :: xs) (offset :: ws) where
  le_offset x hx := by
    rcases List.mem_cons.1 hx with rfl | hx
    · exact Nat.le_refl _
    · have := h.le_offset x hx
      omega
  le_owner w hw := by
    rcases List.mem_cons.1 hw with rfl | hw
    · exact Nat.le_refl _
    · have := h.le_owner w hw
      omega
  le_iff i j x w hx hw := by
    cases i with
    | zero =>
      cases hx
      have hle : offset ≤ w := by
        cases j with
        | zero => cases hw; exact Nat.le_refl _
        | succ j => exact Nat.le_of_succ_le (h.le_owner w (List.mem_of_getElem? hw))
      omega
    | succ i =>
      have hlx := h.le_offset x (List.mem_of_getElem? hx)
      cases j with
      | zero => cases hw; omega
      | succ j =>
        have := h.le_iff i j x w hx hw
        omega

/-- A token holds a piece of any length. -/
theorem Adjoint.token {length offset n : Nat} {xs ws : List Nat}
    (h : Adjoint (length + n) (offset + 3) xs ws) :
    Adjoint length offset (length :: length :: length :: xs)
      (List.replicate n (offset + 2) ++ ws) where
  le_offset x hx := by
    simp only [List.mem_cons] at hx
    rcases hx with rfl | rfl | rfl | hx
    · exact Nat.le_refl _
    · exact Nat.le_refl _
    · exact Nat.le_refl _
    · have := h.le_offset x hx
      omega
  le_owner w hw := by
    rcases List.mem_append.1 hw with hw | hw
    · have := List.eq_of_mem_replicate hw
      omega
    · have := h.le_owner w hw
      omega
  le_iff i j x w hx hw := by
    have hj : j < n ∧ w = offset + 2 ∨ n ≤ j ∧ ws[j - n]? = some w := by
      by_cases hj : j < n
      · rw [List.getElem?_append_left (by rwa [List.length_replicate])] at hw
        exact .inl ⟨hj, List.eq_of_mem_replicate (List.mem_of_getElem? hw)⟩
      · rw [List.getElem?_append_right (by rw [List.length_replicate]; omega),
          List.length_replicate] at hw
        exact .inr ⟨Nat.le_of_not_lt hj, hw⟩
    have hlw : offset + 2 ≤ w := by
      rcases hj with ⟨_, rfl⟩ | ⟨_, hw⟩
      · exact Nat.le_refl _
      · exact Nat.le_of_succ_le (h.le_owner w (List.mem_of_getElem? hw))
    match i with
    -- all offsets inside the token are those of its start, and its owner is its last character
    | 0 | 1 | 2 =>
      cases hx
      omega
    | i + 3 =>
      have hlx := h.le_offset x (List.mem_of_getElem? hx)
      rcases hj with ⟨hj, rfl⟩ | ⟨hj, hw⟩
      · omega
      · have := h.le_iff i (j - n) x w hx hw
        omega

theorem adjoint (length offset : Nat) (gs : List Glyph) (ps : List Text) :
    Adjoint length offset (offsetsFrom length gs ps) (ownersFrom offset gs ps) := by
  fun_induction offsetsFrom length gs ps generalizing offset with
  | case1 =>
    refine ⟨fun x hx => ?_, fun w hw => ?_, fun i j x w _ hw => ?_⟩
    · exact Nat.le_of_eq (List.mem_singleton.1 hx).symm
    · cases hw
    · cases hw
  | case2 length gs p ps ih => exact (ih (offset + 3)).token
  -- a token without a piece is three characters
  | case3 length gs ih => exact (ih (offset + 3)).char.char.char
  | case4 length c gs ps ih => exact (ih (offset + 1)).char

end Fold.Glyph

namespace Document

open Span (Covers remap)

/-- The kind that spans give to what is put in the place of a stretch: that of an expression if one
of them is around the stretch. -/
def kindAround (spans : List Span) (a b : Int) : Text :=
  if ∃ s ∈ spans, s.Around a b then Segment.expr else Segment.literal

theorem kindAt_eq_kindAround {spans spans' : List Span} {i a b : Int}
    (h : Covers spans i ↔ ∃ s ∈ spans', s.Around a b) : kindAt spans i = kindAround spans' a b := by
  simp only [kindAt, kindAround, h]

section Remap

/-! Of a stretch that is replaced by another one, the characters before it keep their kinds, and so
do those after it. -/

variable (spans : List Span) {a b : Nat} (hab : a ≤ b) (n : Nat)
include hab

theorem kinds_remap_before {ws : List Nat} (h : ∀ w ∈ ws, w < a) :
    kinds (remap spans a b n) ws = kinds spans ws :=
  List.map_congr_left fun w hw => kindAt_eq_iff.2
    (Span.covers_remap_before spans (by omega) (by omega) (by have := h w hw; omega))

theorem kinds_remap_inside {ws : List Nat} (h : ∀ w ∈ ws, a ≤ w ∧ w < a + n) :
    kinds (remap spans a b n) ws = List.replicate ws.length (kindAround spans a b) :=
  List.map_eq_replicate_iff.2 fun w hw => kindAt_eq_kindAround
    (Span.covers_remap_inside spans (by omega) (by omega) (by have := h w hw; omega)
      (by have := h w hw; omega))

theorem kinds_remap_after (ws : List Nat) :
    kinds (remap spans a b n) (ws.map (· + (a + n))) = kinds spans (ws.map (· + b)) := by
  simp only [kinds, List.map_map]
  refine List.map_congr_left fun w _ => kindAt_eq_iff.2 ?_
  have hw : Covers (remap spans a b n) (w + (a + n)) ↔ Covers spans (w + b) :=
    Span.covers_remap_after spans (by omega) (by omega) (by omega)
  simpa using hw

end Remap

end Document

namespace FoldedText

open Fold

/-- The owners of the characters of the expanded text. -/
def owners (f : FoldedText) : List Nat := Glyph.ownersFrom 0 (glyphs f.buffer) f.pieces

theorem owners_length (f : FoldedText) : f.owners.length = f.expanded.length := by
  rw [owners, Glyph.ownersFrom_length, expanded, expand_eq]

/-- Expanding a span takes its offsets to where they are in the expanded text. -/
theorem expandSpan_eq (f : FoldedText) {s : Span} (hs : s.LiesIn f.buffer.length) : ∃ x y : Nat,
      (offsets f.buffer f.pieces)[s.start.toNat]? = some x ∧
      (offsets f.buffer f.pieces)[s.stop.toNat]? = some y ∧
      expandSpan (offsets f.buffer f.pieces) f.expanded.length s = ⟨x, max x y⟩ := by
  obtain ⟨h0, hle, hl⟩ := hs
  have hn : (offsets f.buffer f.pieces).length = f.buffer.length + 1 := offsetsFrom_length 0 _ _
  have hx := List.getElem?_eq_getElem (l := offsets f.buffer f.pieces) (i := s.start.toNat)
    (by omega)
  have hy := List.getElem?_eq_getElem (l := offsets f.buffer f.pieces) (i := s.stop.toNat)
    (by omega)
  refine ⟨_, _, hx, hy, ?_⟩
  rw [expandSpan]
  simp only [if_neg (Int.not_lt.2 h0), if_neg (Int.not_lt.2 (Int.le_trans h0 hle)), hx, hy,
    Option.getD_some]

/-- An expanded span holds a character of the expanded text if the span holds its owner. -/
theorem holds_expandSpan (f : FoldedText) {s : Span} (hs : s.LiesIn f.buffer.length) {j w : Nat}
    (hw : f.owners[j]? = some w) :
    (expandSpan (offsets f.buffer f.pieces) f.expanded.length s).Holds j ↔ s.Holds w := by
  have hiff (i x : Nat) (hx : (offsets f.buffer f.pieces)[i]? = some x) : x ≤ j ↔ i ≤ w := by
    rw [offsets, offsetsFrom_eq] at hx
    have := (Glyph.adjoint 0 0 (glyphs f.buffer) f.pieces).le_iff i j x w hx hw
    rwa [Nat.zero_add, Nat.zero_add] at this
  obtain ⟨x, y, hx, hy, he⟩ := f.expandSpan_eq hs
  obtain ⟨h0, hle, -⟩ := hs
  have h1 := hiff _ x hx
  have h2 := hiff _ y hy
  rw [he]
  simp only [Span.Holds]
  omega

theorem covers_expanded {f : FoldedText} (h : f.InBounds) {j w : Nat}
    (hw : f.owners[j]? = some w) : Span.Covers f.expandedSpans j ↔ Span.Covers f.spans w := by
  have hs (s : Span) (hm : s ∈ f.spans) := f.holds_expandSpan (h s hm) hw
  simp only [Span.Covers, expandedSpans, List.mem_map]
  constructor
  · rintro ⟨_, ⟨s, hm, rfl⟩, hj⟩
    exact ⟨s, hm, (hs s hm).1 hj⟩
  · rintro ⟨s, hm, hj⟩
    exact ⟨_, ⟨s, hm, rfl⟩, (hs s hm).2 hj⟩

theorem text_document (f : FoldedText) : f.document.text = f.expanded := Document.text_ofSpans ..

/-- **What a document is made of.** The characters are those of the expanded text, each of the
kind of its owner. -/
theorem document_eq {f : FoldedText} (h : f.InBounds) :
    f.document = Document.ofMarked (f.expanded.zip (Document.kinds f.spans f.owners)) := by
  have hk : Document.kinds f.expandedSpans (List.range f.expanded.length) =
      Document.kinds f.spans f.owners := by
    apply List.ext_getElem?
    intro j
    simp only [Document.kinds, List.getElem?_map]
    cases hw : f.owners[j]? with
    | none =>
      rw [List.getElem?_eq_none_iff, owners_length] at hw
      rw [List.getElem?_eq_none (by rwa [List.length_range])]
      rfl
    | some w =>
      have hj := (List.getElem?_eq_some_iff.1 hw).1
      rw [owners_length] at hj
      rw [List.getElem?_range hj]
      exact congrArg some (Document.kindAt_eq_iff.2 (covers_expanded h hw))
  rw [document, Document.ofSpans_eq, hk]

theorem marked_document {f : FoldedText} (h : f.InBounds) :
    f.document.marked = f.expanded.zip (Document.kinds f.spans f.owners) := by
  rw [document_eq h, Document.marked_ofMarked]

/-- Of two folded texts with one expanded text, the documents are the same if the owners are of
the same kinds. -/
theorem document_eq_iff {f f' : FoldedText} (h : f.Sound) (h' : f'.Sound)
    (he : f'.expanded = f.expanded) : f'.document = f.document ↔
      Document.kinds f'.spans f'.owners = Document.kinds f.spans f.owners := by
  have hk (g : FoldedText) : (Document.kinds g.spans g.owners).length = g.expanded.length := by
    rw [Document.kinds, List.length_map, owners_length]
  rw [document_eq h.inBounds, document_eq h'.inBounds, Document.ofMarked_inj, he]
  exact Document.zip_inj (by rw [hk, he]) (hk f)

end FoldedText

end CitationStudio
