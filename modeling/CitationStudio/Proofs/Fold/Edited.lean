import CitationStudio.Proofs.Fold.Owner

/-! # An edit of the buffer is an edit of the document

An edit is made in offsets of the buffer. It takes tokens out with their pieces, moves the pieces
behind it to other places and stretches, shortens or drops marks. All the same the expanded text is
edited between the offsets that the two ends have there, and its other characters keep their kinds.
The buffer around the edit is read as before because no token is cut and none comes to be. -/

namespace CitationStudio

namespace Fold.Glyph

/-- The characters that glyphs expand to, each with the kind of its owner. -/
def marked (spans : List Span) (offset : Nat) (gs : List Glyph) (ps : List Text) :
    List (Char × Text) :=
  (expand gs ps).zip (Document.kinds spans (ownersFrom offset gs ps))

theorem length_marked (spans : List Span) (offset : Nat) (gs : List Glyph) (ps : List Text) :
    (marked spans offset gs ps).length = (expand gs ps).length := by
  rw [marked, List.length_zip, Document.length_kinds, ownersFrom_length, Nat.min_self]

theorem marked_append (spans : List Span) (offset : Nat) (gs hs : List Glyph) (ps : List Text) :
    marked spans offset (gs ++ hs) ps = marked spans offset gs ps ++
      marked spans (offset + width gs) hs (ps.drop (count gs)) := by
  rw [marked, expand_append, ownersFrom_append, Document.kinds_append, List.zip_append]
  · rfl
  · rw [Document.length_kinds, ownersFrom_length]

/-- Only as many pieces are looked at as there are tokens. -/
theorem marked_congr (spans : List Span) (offset : Nat) {gs : List Glyph} {ps qs : List Text}
    (h : ps.take (count gs) = qs.take (count gs)) :
    marked spans offset gs ps = marked spans offset gs qs := by
  have htake (ps : List Text) : expand gs (ps.take (count gs)) = expand gs ps :=
    expand_congr fun k hk => by rw [List.getElem?_take_of_lt hk]
  rw [marked, ← htake, ← ownersFrom_take, h, htake, ownersFrom_take, marked]

section Remap

variable (spans : List Span) {a b : Nat} (hab : a ≤ b)
include hab

theorem marked_remap_before (n : Nat) {offset : Nat} {gs : List Glyph} (h : offset + width gs ≤ a)
    (ps : List Text) :
    marked (Span.remap spans a b n) offset gs ps = marked spans offset gs ps := by
  rw [marked, marked, Document.kinds_remap_before spans hab n fun w hw => ?_]
  have := mem_ownersFrom hw
  omega

theorem marked_remap_inside (t : Text) (ps : List Text) :
    marked (Span.remap spans a b t.length) a (chars t) ps =
      t.map fun c => (c, Document.kindAround spans a b) := by
  rw [marked, expand_chars, ownersFrom_chars, Document.kinds_remap_inside spans hab t.length
    fun w hw => List.mem_range'_1.1 hw, List.length_range', Document.zip_replicate]

theorem marked_remap_after (n : Nat) (gs : List Glyph) (ps : List Text) :
    marked (Span.remap spans a b n) (a + n) gs ps = marked spans b gs ps := by
  rw [marked, marked, ownersFrom_zero, Document.kinds_remap_after spans hab n, ← ownersFrom_zero]

end Remap

end Fold.Glyph

namespace FoldedText

open Fold
open Fold.Glyph (count chars)

theorem take_append_drop_of_le {α : Type} (xs : List α) {a b : Nat} (hab : a ≤ b) :
    (xs.take a ++ xs.drop b).take a = xs.take a ∧ (xs.take a ++ xs.drop b).drop a = xs.drop b := by
  by_cases ha : a ≤ xs.length
  · have hlen := List.length_take_of_le ha
    exact ⟨List.take_left' hlen, List.drop_left' hlen⟩
  · rw [List.drop_eq_nil_of_le (by omega : xs.length ≤ b), List.append_nil, List.take_take,
      Nat.min_self]
    exact ⟨rfl, List.drop_eq_nil_of_le (by rw [List.length_take]; omega)⟩

theorem marked_document_eq {f : FoldedText} (h : f.InBounds) :
    f.document.marked = Glyph.marked f.spans 0 (glyphs f.buffer) f.pieces := by
  rw [marked_document h, expanded, expand_eq]
  rfl

namespace Stretch

variable {f : FoldedText} {l m r t : Text}

theorem marked_eq (hst : f.Stretch l m r) (h : f.InBounds) :
    f.document.marked = Glyph.marked f.spans 0 (glyphs l) f.pieces ++
      Glyph.marked f.spans l.length (glyphs m) (f.pieces.drop (count (glyphs l))) ++
        Glyph.marked f.spans (l ++ m).length (glyphs r)
          (f.pieces.drop (count (glyphs l) + count (glyphs m))) := by
  rw [marked_document_eq h, hst.glyphs_eq, Glyph.marked_append, Glyph.marked_append,
    Glyph.width_append, Glyph.count_append, width_glyphs, width_glyphs, Nat.zero_add, Nat.zero_add,
    ← List.length_append]

theorem take_marked (hst : f.Stretch l m r) (h : f.InBounds) :
    f.document.marked.take (f.position l.length) =
      Glyph.marked f.spans 0 (glyphs l) f.pieces := by
  rw [hst.marked_eq h, List.append_assoc, hst.position_start,
    List.take_left' (Glyph.length_marked ..)]

theorem drop_marked (hst : f.Stretch l m r) (h : f.InBounds) :
    f.document.marked.drop (f.position (l ++ m).length) =
      Glyph.marked f.spans (l ++ m).length (glyphs r)
        (f.pieces.drop (count (glyphs l) + count (glyphs m))) := by
  rw [hst.marked_eq h, hst.position_stop, List.drop_left']
  rw [List.length_append, List.length_append, Glyph.length_marked, Glyph.length_marked]

/-- The stretch goes from the document, and what comes in its place is of one kind. -/
theorem marked_replaced (hst : f.Stretch l m r) (h : f.InBounds)
    (h' : (f.replaced l m r t).InBounds)
    (hg : glyphs (l ++ t ++ r) = glyphs l ++ chars t ++ glyphs r) :
    (f.replaced l m r t).document.marked = f.document.marked.take (f.position l.length) ++
      t.map (fun c => (c, Document.kindAround f.spans l.length (l ++ m).length)) ++
        f.document.marked.drop (f.position (l ++ m).length) := by
  have hab : l.length ≤ (l ++ m).length := by
    rw [List.length_append]
    exact Nat.le_add_right ..
  have hl : 0 + Glyph.width (glyphs l) ≤ l.length := by
    rw [width_glyphs]
    omega
  obtain ⟨htake, hdrop⟩ := take_append_drop_of_le f.pieces
    (Nat.le_add_right (count (glyphs l)) (count (glyphs m)))
  rw [marked_document_eq h', hst.take_marked h, hst.drop_marked h]
  simp only [replaced]
  rw [hg, Glyph.marked_append, Glyph.marked_append, Glyph.width_append, Glyph.count_append,
    Glyph.width_chars, Glyph.count_chars, width_glyphs, Nat.zero_add, Nat.zero_add, Nat.add_zero,
    hdrop, Glyph.marked_congr _ _ htake, Glyph.marked_remap_before f.spans hab _ hl,
    Glyph.marked_remap_inside f.spans hab, Glyph.marked_remap_after f.spans hab]

end Stretch

/-- **An edit of the buffer is an edit of the expanded text.** It is made between the offsets that
the two ends have there. What is put in is of one kind, that of an expression if a mark is around
the edit, and every other character keeps its kind. -/
theorem edit_expanded {f f' : FoldedText} (h : f.InBounds) {start stop : Int} {t : Text}
    (he : f.edit start stop t = .ok f') :
    let a := f.position (min start stop).toNat
    let b := f.position (max start stop).toNat
    let kind := Document.kindAround f.spans (min start stop) (max start stop)
    f'.expanded = splice f.expanded a b t ∧
    f'.document.marked = f.document.marked.take a ++ t.map (fun c => (c, kind)) ++
      f.document.marked.drop b := by
  have h' := (sound_edit he h).inBounds
  obtain ⟨l, m, r, hst, hl, hm, hg, rfl⟩ := edit_inv he
  rw [← hl, ← hm, Int.toNat_natCast, Int.toNat_natCast]
  have hmarked := hst.marked_replaced h h' hg
  have hchars (kind : Text) : (t.map fun c => (c, kind)).map Prod.fst = t := by
    rw [List.map_map]
    exact List.map_id t
  refine ⟨?_, hmarked⟩
  rw [← text_document, ← Document.map_fst_marked, hmarked, List.map_append, List.map_append,
    hchars, List.map_take, List.map_drop, Document.map_fst_marked, text_document, splice]

/-- A character and a token go from inside a mark. The token before them has a piece, and the one
after them has none. -/
theorem edit_expanded_inside_mark :
    let f : FoldedText := ⟨"a[*]bc[*]d[*]".toList, ["x".toList, "yz".toList], [⟨4, 10⟩]⟩
    let f' : FoldedText := ⟨"a[*]b[wd[*]".toList, ["x".toList], [⟨4, 8⟩]⟩
    f.InBounds ∧ f.edit 9 5 "[w".toList = .ok f' ∧
      f'.expanded = splice f.expanded 3 6 "[w".toList ∧
      f'.document.marked = f.document.marked.take 3 ++
        [('[', Segment.expr), ('w', Segment.expr)] ++ f.document.marked.drop 6 := by
  intro f f'
  have h : f.InBounds := by decide
  have he : f.edit 9 5 "[w".toList = .ok f' := by rfl
  exact ⟨h, he, edit_expanded h he⟩

end FoldedText

end CitationStudio
