import CitationStudio.Proofs.Fold.Kinds
import CitationStudio.Proofs.Marking.Run

/-! # When folding is purely visual

In a session, a fold is meant to change what the author sees and not what the text is. It keeps
the document unless a mark starts or stops inside a token that was never folded: opening folds can
leave such tokens, made of what two pieces hold side by side or of what a piece held and was
edited, with a mark on a part of them. The next fold, wherever it is, makes folds of them all. -/

namespace CitationStudio.Marking.Session

variable {σ : Type} [Surface σ]

/-- **A fold keeps the document and the compiled template** exactly if no mark starts or stops
inside a token that stands for itself. -/
theorem fold_keeps_document_iff (surface : Option σ) (seed : Text) (actions : List (Action σ))
    (given : Option (Int × Int)) :
    let s := (new surface seed).run actions
    (s.fold given).2 = true →
      (((s.fold given).1.state.document = s.state.document ∧
          (s.fold given).1.state.compiled = s.state.compiled) ↔ s.state.OrphansWhole) := by
  intro s hdone
  have hs : s.state.Sound := run_sound actions (FoldedText.sound_ofText seed)
  rcases s.fold_cases given with ⟨a, b, hf, -⟩ | ⟨-, hno⟩
  · rw [← FoldedText.document_fold_iff hs hf]
    constructor
    · exact fun h => h.1
    · exact fun h => ⟨h, congrArg Document.compiled h⟩
  · rw [hno] at hdone
    cases hdone

/-- A fold next to a token that was typed and marked as a whole. -/
theorem fold_keeps_document_typed :
    let s := (new (none : Option TextBox) ['[', '*', ']', 'a', 'b']).run [.toExpr (some (0, 3))]
    (s.fold (some (3, 4))).2 = true ∧ s.state.OrphansWhole ∧
      (s.fold (some (3, 4))).1.state.document = s.state.document :=
  let seed : Text := ['[', '*', ']', 'a', 'b']
  let actions : List (Action TextBox) := [.toExpr (some (0, 3))]
  have hdone : (((new none seed).run actions).fold (some (3, 4))).2 = true := by decide
  have hwhole : ((new none seed).run actions).state.OrphansWhole := by decide
  ⟨hdone, hwhole,
    ((fold_keeps_document_iff none seed actions (some (3, 4)) hdone).2 hwhole).1⟩

/-- Not every fold keeps the document. Of two stars in brackets the first is folded, the second is
taken out, the fold is marked and opened: that leaves a token with a mark on its star. Folding the
letter after it takes the mark away. -/
theorem not_fold_keeps_document :
    ¬ ∀ (seed : Text) (actions : List (Action TextBox)) (given : Option (Int × Int)),
      let s := (new none seed).run actions
      (s.fold given).2 = true →
        (s.fold given).1.state.document = s.state.document ∧
          (s.fold given).1.state.compiled = s.state.compiled := by
  intro h
  let actions : List (Action TextBox) := [.fold (some (1, 2)),
    .type ['[', '[', '*', ']', ']', 'x'], .toExpr (some (1, 4)), .unfold]
  have hf := h ['[', '*', '*', ']', 'x'] actions (some (3, 4)) (by decide)
  exact absurd hf.1 (by decide)

end CitationStudio.Marking.Session
