import CitationStudio.Proofs.Fold.Owner

/-! # Opening all folds

Without pieces every token stands for itself and every offset stays where it is. So the marks of an
opened text, which were put where the expanded text has them, are there when the text is expanded
once more. Putting them there has cut them to the text and merged them, and neither changes what
they cover: this holds for marks of any kind, in bounds or not. -/

namespace CitationStudio

namespace Fold

theorem Glyph.offsetsFrom_nil (length : Nat) (gs : List Glyph) :
    offsetsFrom length gs [] = List.range' length (width gs + 1) := by
  induction gs generalizing length with
  | nil => rfl
  | cons g gs ih =>
    cases g with
    | token => rw [offsetsFrom, ih, width]; rfl
    | char c => rw [offsetsFrom, ih, width]; rfl

theorem Glyph.expand_nil (t : Text) : expand (glyphs t) [] = t := by
  fun_induction glyphs t with
  | case1 t ih => rw [expand_orphan, ih]; rfl
  | case2 c t _ ih => rw [expand, ih]
  | case3 => rfl

theorem expand_nil (t : Text) : expand t [] = t := by
  rw [expand_eq, Glyph.expand_nil]

theorem offsets_nil (t : Text) : offsets t [] = List.range (t.length + 1) := by
  rw [offsets, offsetsFrom_eq, Glyph.offsetsFrom_nil, width_glyphs, List.range_eq_range']

theorem expandSpan_nil {t : Text} {s : Span} (hs : s.LiesIn t.length) :
    expandSpan (offsets t []) t.length s = s := by
  obtain ⟨h0, hle, hl⟩ := hs
  have hposition (i : Int) (h0 : 0 ≤ i) (hl : i ≤ t.length) :
      ((if i < 0 then t.length else ((offsets t [])[i.toNat]?).getD t.length : Nat) : Int) = i := by
    rw [if_neg (Int.not_lt.2 h0), offsets_nil, List.getElem?_range (by omega), Option.getD_some]
    omega
  rw [expandSpan]
  simp only [hposition _ h0 (Int.le_trans hle hl), hposition _ (Int.le_trans h0 hle) hl,
    Int.max_eq_right hle]

end Fold

namespace FoldedText

open Fold

theorem expanded_unfold (f : FoldedText) : f.unfold.expanded = f.expanded := expand_nil f.expanded

/-- The marks of an opened text are where the expanded text has them. -/
theorem expandedSpans_unfold (f : FoldedText) : f.unfold.expandedSpans = f.unfold.spans := by
  have hsound := f.sound_unfold
  have hsame : ∀ s ∈ f.unfold.spans,
      expandSpan (offsets f.unfold.buffer []) f.unfold.expanded.length s = s := by
    intro s hs
    rw [expanded_unfold]
    exact expandSpan_nil (hsound.inBounds s hs)
  exact (List.map_congr_left hsame).trans (List.map_id _)

theorem document_unfold (f : FoldedText) : f.unfold.document = f.document := by
  have hcovers : ∀ i, Span.Covers f.unfold.spans i ↔ Span.Covers f.expandedSpans i :=
    Span.covers_merge f.expandedSpans
  rw [document, expanded_unfold, expandedSpans_unfold]
  exact Document.ofSpans_congr _ hcovers

theorem unfold_unfold (f : FoldedText) : f.unfold.unfold = f.unfold := by
  have hmerge : Span.merge f.unfold.spans = f.unfold.spans :=
    Span.merge_of_canonical f.sound_unfold.canonical
  rw [unfold, expanded_unfold, expandedSpans_unfold, hmerge]
  rfl

/-- **Opening all folds changes the view and not the text**, whatever the pieces and the marks are.
What is shown is the text of the document; the document and the compiled form stay as they were, and
there is nothing left to open. -/
theorem unfold_keeps_document (f : FoldedText) :
    f.unfold.buffer = f.document.text ∧ f.unfold.document = f.document ∧
      f.unfold.compiled = f.compiled ∧ f.unfold.unfold = f.unfold :=
  ⟨f.text_document.symm, f.document_unfold,
    congrArg Document.compiled f.document_unfold, f.unfold_unfold⟩

/-- A piece that makes a token of its surroundings, and marks that go over both ends. -/
example : FoldedText.unfold ⟨"[[*]]".toList, ["*".toList], [⟨4, 99⟩, ⟨1, 4⟩, ⟨-1, 2⟩]⟩ =
    ⟨"[*]".toList, [], [⟨1, 3⟩]⟩ := by decide

end FoldedText

end CitationStudio
