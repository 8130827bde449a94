import CitationStudio.Proofs.Document.Cut
import CitationStudio.Proofs.Fold.Owner

/-! # Marking folded text is marking its document

Marks are put on the buffer, where they are merged with others or taken from them, and reach the
document through the offsets of the expanded text. A document can be marked as well, by cutting its
segments. Both ways lead to the same document: a character of the expanded text gets the kind if
its owner is selected, and that is if its offset lies in the expanded selection. -/

namespace CitationStudio.FoldedText

open Fold

/-- A selection, widened to whole tokens, in offsets of the expanded text. -/
def expandedSelection (f : FoldedText) (start stop : Int) : Span :=
  expandSpan (offsets f.buffer f.pieces) f.expanded.length (f.widened start stop)

/-- The character at an offset of the document, with the kind of its owner. -/
theorem marked_document_getElem? {f : FoldedText} (h : f.InBounds) (j : Nat) :
    f.document.marked[j]? = f.expanded[j]?.bind fun c =>
      f.owners[j]?.map fun w : Nat => (c, Document.kindAt f.spans w) := by
  rw [marked_document h, List.zip, List.getElem?_zipWith, Document.kinds, List.getElem?_map]
  cases f.expanded[j]? with
  | none => rfl
  | some c => cases f.owners[j]? <;> rfl

/-- If kinds change exactly where a span holds the characters of the buffer, then the document is
marked where the expanded span is. -/
theorem document_eq_markKnown {f f' : FoldedText} (h : f.InBounds) (h' : f'.InBounds)
    (hbuffer : f'.buffer = f.buffer) (hpieces : f'.pieces = f.pieces) {s : Span} {kind : Text}
    (hs : s.LiesIn f.buffer.length)
    (hkind : ∀ w : Nat, Document.kindAt f'.spans w =
      if s.Holds w then kind else Document.kindAt f.spans w) :
    let stretch := expandSpan (offsets f.buffer f.pieces) f.expanded.length s
    f'.document = f.document.markKnown stretch.start stretch.stop kind := by
  intro stretch
  have hexpanded : f'.expanded = f.expanded := by rw [expanded, hbuffer, hpieces]; rfl
  have howners : f'.owners = f.owners := by rw [owners, hbuffer, hpieces]; rfl
  have horder : stretch.start ≤ stretch.stop := Int.le_max_left ..
  refine Document.eq_of_marked (Document.isNormal_ofSpans _ _) (Document.isNormal_markKnown ..)
    fun j => ?_
  rw [Document.marked_markKnown, marked_document_getElem? h', marked_document_getElem? h, hexpanded,
    howners, Int.min_eq_left horder, Int.max_eq_right horder]
  cases f.expanded[j]? with
  | none => rfl
  | some c =>
    cases hw : f.owners[j]? with
    | none => rfl
    | some w =>
      have hholds : (stretch.start ≤ j ∧ j < stretch.stop) ↔ s.Holds w :=
        f.holds_expandSpan hs hw
      simp only [Option.bind_some, Option.map_some, hkind w, hholds]
      split <;> rfl

theorem kindAt_merge (ss : List Span) (s : Span) (i : Int) :
    Document.kindAt (Span.merge (ss ++ [s])) i =
      if s.Holds i then Segment.expr else Document.kindAt ss i := by
  simp only [Document.kindAt, Span.covers_merge, Span.covers_append, Span.covers_singleton]
  by_cases h : s.Holds i
  · simp only [h, or_true, if_true]
  · simp only [h, or_false, if_false]

theorem document_markExpr {f f' : FoldedText} {start stop : Int} (h : f.InBounds)
    (hf : f.markExpr start stop = .ok f') :
    let stretch := f.expandedSelection start stop
    f'.document = f.document.markKnown stretch.start stretch.stop Segment.expr := by
  have h' := (sound_markExpr hf h).inBounds
  obtain ⟨hs, rfl⟩ := markExpr_inv hf
  exact document_eq_markKnown h h' rfl rfl hs.widened_liesIn fun w => kindAt_merge ..

end CitationStudio.FoldedText
