import CitationStudio.Proofs.Fold.Expanded
import CitationStudio.Proofs.Fold.Unfolded
import CitationStudio.Proofs.Marking.Run

/-! # A piece for every token

The pieces of a folded text are known by their places among the tokens. No step leaves more pieces
than tokens (`Fits`), and almost every step leaves as many (`Paired`): an edit drops the pieces of
the tokens it drops and makes no token, and a fold makes a token and its piece. But tokens are
known by their text alone. Opening the folds takes all the pieces away, and what they held may make
a token with what was beside them. That is the one way in which a token without a piece comes to be
in a session that starts without tokens. -/

namespace CitationStudio

namespace FoldedText

open Fold
open Fold.Glyph (count)

/-- There are no more pieces than tokens. -/
def Fits (f : FoldedText) : Prop := f.pieces.length ≤ f.foldCount

def Paired (f : FoldedText) : Prop := f.pieces.length = f.foldCount

theorem Paired.fits {f : FoldedText} (h : f.Paired) : f.Fits := Nat.le_of_eq h

theorem paired_iff_of_nil {f : FoldedText} (h : f.pieces = []) :
    f.Paired ↔ Text.occursIn token f.buffer = false := by
  rw [Paired, h, List.length_nil, foldCount, eq_comm, tokenCount_eq_zero_iff]

/-- Opening all folds takes all pieces away. -/
theorem paired_unfold_iff (f : FoldedText) :
    f.unfold.Paired ↔ Text.occursIn token f.expanded = false := paired_iff_of_nil rfl

theorem edit_pieces_length {f f' : FoldedText} {start stop : Int} {t : Text}
    (h : f.edit start stop t = .ok f') : ∃ before gone,
      before + gone ≤ f.foldCount ∧ f'.foldCount + gone = f.foldCount ∧
      f'.pieces.length = min before f.pieces.length + (f.pieces.length - (before + gone)) := by
  obtain ⟨a, b, -, -, hturns, he⟩ := edit_turns h
  have hab : a ≤ b := hturns.start_le
  obtain ⟨hle, hcount, hpieces⟩ := edit_places hab he
  have hall := f.tokensBefore_le_foldCount b
  refine ⟨f.tokensBefore a, f.tokensBefore b - f.tokensBefore a, by omega, by omega, ?_⟩
  rw [hpieces, List.length_append, List.length_take, List.length_drop]
  congr 2
  omega

theorem edit_fits {f f' : FoldedText} {start stop : Int} {t : Text}
    (h : f.edit start stop t = .ok f') (hf : f.Fits) : f'.Fits := by
  obtain ⟨before, gone, hle, hcount, hpieces⟩ := edit_pieces_length h
  rw [Fits] at hf ⊢
  omega

theorem edit_paired {f f' : FoldedText} {start stop : Int} {t : Text}
    (h : f.edit start stop t = .ok f') (hf : f.Paired) : f'.Paired := by
  obtain ⟨before, gone, hle, hcount, hpieces⟩ := edit_pieces_length h
  rw [Paired] at hf ⊢
  omega

/-- A fold gives a piece to every token that has none. -/
theorem fold_paired {f f' : FoldedText} {start stop : Int} (h : f.fold start stop = .ok f')
    (hf : f.Fits) : f'.Paired := by
  obtain ⟨l, m, r, hst, -, -, -, -, -, rfl⟩ := fold_inv h
  have hcount := hst.foldAt_foldCount
  have hpieces := hst.foldAt_pieces_length
  have hpadded : f.paddedPieces.length = f.foldCount := by
    rw [paddedPieces, List.length_append, List.length_replicate, Nat.add_sub_cancel' hf]
  rw [Paired]
  omega

end FoldedText

/-! ## Along a run -/

namespace Marking

open Fold (token)

theorem Change.fits {f f' : FoldedText} (hc : Change f f') (h : f.Fits) : f'.Fits := by
  cases hc with
  | same => exact h
  | edited he => exact FoldedText.edit_fits he h
  | marked hm =>
    obtain ⟨-, rfl⟩ := FoldedText.markExpr_inv hm
    exact h
  | unmarked hm =>
    obtain ⟨-, rfl⟩ := FoldedText.markLiteral_inv hm
    exact h
  | folded hf => exact (FoldedText.fold_paired hf h).fits
  | unfolded | cleared => exact Nat.zero_le _

namespace Session

variable {σ : Type} [Surface σ]

theorem run_fits (actions : List (Action σ)) {s : Session σ} (h : s.state.Fits) :
    (s.run actions).state.Fits := by
  induction actions generalizing s with
  | nil => exact h
  | cons a actions ih => exact ih ((act_change s a).fits h)

/-- No action but opening the folds leaves a token without a piece. -/
theorem act_paired {s : Session σ} (h : s.state.Paired) {a : Action σ} (ha : a ≠ .unfold) :
    (s.act a).state.Paired := by
  cases a with
  | type t =>
    rcases s.type_cases t with ⟨start, stop, inserted, he⟩ | hs
    · exact FoldedText.edit_paired he h
    · exact hs ▸ h
  | toExpr given =>
    rcases s.onSelection_cases given FoldedText.markExpr with ⟨start, stop, hm, -⟩ | ⟨hs, -⟩
    · obtain ⟨-, hs⟩ := FoldedText.markExpr_inv hm
      exact hs ▸ h
    · exact hs ▸ h
  | toLiteral given =>
    rcases s.onSelection_cases given FoldedText.markLiteral with ⟨start, stop, hm, -⟩ | ⟨hs, -⟩
    · obtain ⟨-, hs⟩ := FoldedText.markLiteral_inv hm
      exact hs ▸ h
    · exact hs ▸ h
  | fold given =>
    rcases s.fold_cases given with ⟨start, stop, hf, -⟩ | ⟨hs, -⟩
    · exact FoldedText.fold_paired hf h.fits
    · exact hs ▸ h
  | unfold => exact absurd rfl ha
  | clear => exact rfl
  | surface now => exact h

/-- Opening the folds leaves a token without a piece if it leaves a token at all. -/
theorem act_unfold_paired_iff (s : Session σ) :
    (s.act .unfold).state.Paired ↔ Text.occursIn token s.state.expanded = false := by
  rcases s.unfold_cases with ⟨-, hs⟩ | ⟨hnil, hs⟩
  · exact hs ▸ s.state.paired_unfold_iff
  · -- nothing is folded, so there is no token to begin with
    have hexpanded : s.state.expanded = s.state.buffer := by
      rw [FoldedText.expanded, hnil, Fold.expand_nil]
    rw [hexpanded, ← FoldedText.paired_iff_of_nil hnil]
    exact hs ▸ Iff.rfl

theorem act_paired_iff {s : Session σ} (h : s.state.Paired) (a : Action σ) :
    (s.act a).state.Paired ↔ (a = .unfold → Text.occursIn token s.state.expanded = false) := by
  by_cases ha : a = .unfold
  · subst ha
    rw [act_unfold_paired_iff, forall_prop_of_true rfl]
  · exact iff_of_true (act_paired h ha) fun ha' => absurd ha' ha

/-- The tokens have pieces all along a run exactly if no opened text has a token. -/
theorem run_paired_iff (actions : List (Action σ)) {s : Session σ} (h : s.state.Paired) :
    (∀ n, (s.run (actions.take n)).state.Paired) ↔ ∀ n, actions[n]? = some .unfold →
      Text.occursIn token (s.run (actions.take n)).state.expanded = false := by
  have hstep (s : Session σ) (a : Action σ) (hs : s.state.Paired) := act_paired_iff hs a
  refine (run_always_iff (P := fun s => s.state.Paired) hstep h actions).trans ?_
  exact forall_congr' fun n => ⟨fun hall hn => hall _ hn rfl, fun hn _ ha hu => hn (hu ▸ ha)⟩

/-- **Every token of a session has a piece** as long as no unfolding makes a token: in a session
that starts without tokens there are never more pieces than tokens, and there are as many all along
exactly if the text has no token each time that all its folds are opened. -/
theorem run_pieces_iff (surface : Option σ) {seed : Text}
    (hseed : Text.occursIn token seed = false) (actions : List (Action σ)) :
    let after (n : Nat) : FoldedText := ((new surface seed).run (actions.take n)).state
    (∀ n, (after n).pieces.length ≤ (after n).foldCount) ∧
      ((∀ n, (after n).pieces.length = (after n).foldCount) ↔
        ∀ n, actions[n]? = some .unfold → Text.occursIn token (after n).expanded = false) := by
  intro after
  have hstart : (new surface seed).state.Paired := (FoldedText.paired_iff_of_nil rfl).2 hseed
  exact ⟨fun n => run_fits (actions.take n) hstart.fits, run_paired_iff actions hstart⟩

/-- A fold inside another, next to brackets and a star, that are all opened again. -/
theorem run_pieces_iff_nested :
    let actions : List (Action TextBox) :=
      [.fold (some (2, 5)), .fold (some (1, 6)), .type "[[*]*".toList, .unfold]
    let after (n : Nat) : FoldedText :=
      ((new none "[{[x]}]*".toList).run (actions.take n)).state
    Text.occursIn token "[{[x]}]*".toList = false ∧ (after 2).pieces = ["{[x]}".toList] ∧
      (after 3).foldCount = 1 ∧ (after 4).buffer = "[{[x]}*".toList ∧
      ∀ n, (after n).pieces.length = (after n).foldCount := by
  intro actions after
  have hseed : Text.occursIn token "[{[x]}]*".toList = false := by decide +kernel
  have hopened : Text.occursIn token (after 3).expanded = false := by decide +kernel
  obtain ⟨-, hpaired⟩ := run_pieces_iff (none : Option TextBox) hseed actions
  refine ⟨hseed, by decide +kernel, by decide +kernel, by decide +kernel, hpaired.2 fun n hn => ?_⟩
  match n, hn with
  | 3, _ => exact hopened

/-- Opening the folds can make a token. Of two stars in brackets the first is folded and the second
is taken out, so that the piece comes to stand between brackets. -/
theorem not_run_pieces :
    ¬ ∀ (seed : Text) (actions : List (Action TextBox)), Text.occursIn token seed = false →
      let f := ((new none seed).run actions).state
      f.pieces.length = f.foldCount := by
  intro h
  have hf := h "[**]".toList [.fold (some (1, 2)), .type "[[*]]".toList, .unfold] (by decide)
  exact absurd hf (by decide)

end Session

end Marking

end CitationStudio
