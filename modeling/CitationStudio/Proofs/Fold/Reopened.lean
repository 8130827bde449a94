import CitationStudio.Proofs.Fold.Kinds
import CitationStudio.Proofs.Fold.Unfolded

/-! # Opening what was folded

What is seen of a folded text once all its folds are open is its document: the text, and the spans
of the expressions, of which there is one canonical list. So two folded texts open to the same one
exactly if they have the same document. A fold that leaves the document alone is undone by opening
it, with the pieces that were there before and all the marks. -/

namespace CitationStudio.FoldedText

open Fold

/-- The marks of the expanded text go over the expressions of its document. -/
theorem covers_expandedSpans_iff (f : FoldedText) (i : Int) :
    Span.Covers f.expandedSpans i ↔
      ∃ j : Nat, i = j ∧ f.document.kind? j = some Segment.expr := by
  have hkind (j : Nat) : f.document.kind? j =
      f.expanded[j]?.map fun _ => Document.kindAt f.expandedSpans j := by
    rw [Document.kind?, document, Document.marked_ofSpans_getElem?, Option.map_map]
    rfl
  constructor
  · intro hc
    obtain ⟨s, hs, hi⟩ := hc
    obtain ⟨h0, hl⟩ := f.within_expandedSpans s hs
    simp only [Span.Holds] at hi
    obtain ⟨j, rfl⟩ := Int.eq_ofNat_of_zero_le (Int.le_trans h0 hi.1)
    have hj : j < f.expanded.length := by omega
    refine ⟨j, rfl, ?_⟩
    rw [hkind, List.getElem?_eq_getElem hj, Option.map_some, Option.some.injEq,
      Document.kindAt_eq_expr_iff]
    exact ⟨s, hs, hi⟩
  · intro h
    obtain ⟨j, rfl, hj⟩ := h
    rw [hkind, Option.map_eq_some_iff] at hj
    obtain ⟨_, -, hexpr⟩ := hj
    exact Document.kindAt_eq_expr_iff.1 hexpr

/-- **What is seen with all folds open is the document.** -/
theorem unfold_eq_iff {f f' : FoldedText} : f'.unfold = f.unfold ↔ f'.document = f.document := by
  constructor
  · intro h
    rw [← document_unfold, h, document_unfold]
  · intro h
    have hexpanded : f'.expanded = f.expanded := by rw [← text_document, h, text_document]
    have hspans : Span.merge f'.expandedSpans = Span.merge f.expandedSpans := by
      refine (Span.canonical_merge _).ext (Span.canonical_merge _) fun i => ?_
      rw [Span.covers_merge, Span.covers_merge, covers_expandedSpans_iff, h,
        ← covers_expandedSpans_iff]
    rw [unfold, unfold, hexpanded, hspans]

/-- No mark starts or stops inside a token. -/
def TokensWhole (f : FoldedText) : Prop :=
  ∀ pos ∈ tokens f.buffer, ∀ s ∈ f.spans,
    ¬ (pos < s.start ∧ s.start < pos + 3) ∧ ¬ (pos < s.stop ∧ s.stop < pos + 3)

instance (f : FoldedText) : Decidable f.TokensWhole :=
  inferInstanceAs (Decidable (∀ pos ∈ tokens f.buffer, ∀ s ∈ f.spans, _ ∧ _))

theorem TokensWhole.orphansWhole {f : FoldedText} (h : f.TokensWhole) : f.OrphansWhole :=
  fun pos hpos => h pos (List.mem_of_mem_drop hpos)

/-- Opening undoes a fold exactly if no mark starts or stops inside a token that stands for
itself. -/
theorem unfold_fold_iff {f f' : FoldedText} (h : f.Sound) {start stop : Int}
    (hf : f.fold start stop = .ok f') : f'.unfold = f.unfold ↔ f.OrphansWhole :=
  unfold_eq_iff.trans (document_fold_iff h hf)

/-- **Opening undoes folding.** If no mark starts or stops inside a token, then the folded text and
the one it was folded from open to the same text, without pieces and with the same marks. -/
theorem unfold_fold {f f' : FoldedText} (h : f.Sound) (hwhole : f.TokensWhole) {start stop : Int}
    (hf : f.fold start stop = .ok f') : f'.unfold = f.unfold :=
  (unfold_fold_iff h hf).2 hwhole.orphansWhole

/-- A stretch that is marked as a whole is folded, with a token in it whose piece is empty. The
token before it is marked too, and the one behind it has no piece. -/
theorem unfold_fold_marked :
    let f : FoldedText := ⟨"[*]a([*])[*]".toList, ["xy".toList, []], [⟨0, 3⟩, ⟨4, 9⟩]⟩
    let f' : FoldedText := ⟨"[*]a[*][*]".toList, ["xy".toList, "()".toList, "[*]".toList],
      [⟨0, 3⟩, ⟨4, 7⟩]⟩
    let opened : FoldedText := ⟨"xya()[*]".toList, [], [⟨0, 2⟩, ⟨3, 5⟩]⟩
    f.Sound ∧ f.TokensWhole ∧ f.fold 9 4 = .ok f' ∧ f'.unfold = opened ∧ f.unfold = opened := by
  intro f f' opened
  have hsound : f.Sound := by decide +kernel
  have hwhole : f.TokensWhole := by decide +kernel
  have hfold : f.fold 9 4 = .ok f' := by rfl
  have hopened : f.unfold = opened := by decide +kernel
  exact ⟨hsound, hwhole, hfold, (unfold_fold hsound hwhole hfold).trans hopened, hopened⟩

end CitationStudio.FoldedText
