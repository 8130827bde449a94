import CitationStudio.Proofs.Fold.Balanced
import CitationStudio.Proofs.Marking.Run

/-! # Folding away balanced text

Only a fold puts anything into the fold table of a session, and what it puts there is the text it
hides. So all pieces are balanced all along a run exactly if each of its folds hides balanced text.
A fold is refused if what is shown of its stretch is not balanced; what is hidden is balanced then
too, unless a backslash reaches across an end of a token. -/

namespace CitationStudio.Marking

open Fold

namespace Session

variable {σ : Type} [Surface σ]

/-- An action folds the stretch from `a` to before `b`. -/
def Folds (s : Session σ) (act : Action σ) (a b : Nat) : Prop :=
  ∃ given start stop f', act = .fold given ∧ s.selected given = some (start, stop) ∧
    (a : Int) = min start stop ∧ (b : Int) = max start stop ∧ s.state.fold a b = .ok f'

theorem Folds.state_act {s : Session σ} {act : Action σ} {a b : Nat} (h : s.Folds act a b) :
    a ≤ b ∧ s.state.fold a b = .ok (s.act act).state := by
  obtain ⟨given, start, stop, f', rfl, hselected, ha, hb, hf⟩ := h
  have hstate : (s.act (.fold given)).state = f' := by
    rw [ha, hb] at hf
    simp only [Session.act, fold, onSelection, hselected, hf]
    rfl
  exact ⟨by omega, by rw [hstate, hf]⟩

/-- Folding folds a stretch, or changes nothing. -/
theorem fold_folds (s : Session σ) (given : Option (Int × Int)) :
    (∃ a b, s.Folds (.fold given) a b) ∨ (s.act (.fold given)).state = s.state := by
  cases hselected : s.selected given with
  | none =>
    refine .inr ?_
    simp only [Session.act, fold, onSelection, hselected]
    rfl
  | some stretch =>
    obtain ⟨start, stop⟩ := stretch
    cases hf : s.state.fold (min start stop) (max start stop) with
    | ok f' =>
      obtain ⟨l, m, r, -, -, hl, hm, -⟩ := FoldedText.fold_inv hf
      have ha : (l.length : Int) = min start stop := by omega
      have hb : ((l ++ m).length : Int) = max start stop := by omega
      exact .inl ⟨l.length, (l ++ m).length, given, start, stop, f', rfl, hselected, ha, hb,
        by rw [ha, hb, hf]⟩
    | error r =>
      refine .inr ?_
      simp only [Session.act, fold, onSelection, hselected, hf]
      rfl

/-- No action but a fold puts anything into the fold table. -/
theorem act_balanced {s : Session σ} (h : s.state.Balanced) {act : Action σ}
    (hnone : ∀ a b, ¬ s.Folds act a b) : (s.act act).state.Balanced := by
  cases act with
  | type t =>
    rcases s.type_cases t with ⟨start, stop, inserted, he⟩ | hs
    · exact FoldedText.edit_balanced he h
    · exact hs ▸ h
  | toExpr given =>
    rcases s.onSelection_cases given FoldedText.markExpr with ⟨start, stop, hm, -⟩ | ⟨hs, -⟩
    · obtain ⟨-, hs⟩ := FoldedText.markExpr_inv hm
      exact hs ▸ h
    · exact hs ▸ h
  | toLiteral given =>
    rcases s.onSelection_cases given FoldedText.markLiteral with ⟨start, stop, hm, -⟩ | ⟨hs, -⟩
    · obtain ⟨-, hs⟩ := FoldedText.markLiteral_inv hm
      exact hs ▸ h
    · exact hs ▸ h
  | fold given =>
    rcases s.fold_folds given with ⟨a, b, hfold⟩ | hs
    · exact absurd hfold (hnone a b)
    · exact hs ▸ h
  | unfold =>
    rcases s.unfold_cases with ⟨-, hs⟩ | ⟨-, hs⟩
    · exact hs ▸ fun p hp => nomatch hp
    · exact hs ▸ h
  | clear => exact fun p hp => nomatch hp
  | surface now => exact h

/-- An action leaves all pieces balanced just if it folds no text away that is not. -/
theorem act_balanced_iff {s : Session σ} (h : s.state.Balanced) (act : Action σ) :
    (s.act act).state.Balanced ↔
      ∀ a b, s.Folds act a b → isBalanced (s.state.hidden a b) = true := by
  constructor
  · intro hall a b hfold
    obtain ⟨hab, hf⟩ := hfold.state_act
    exact (FoldedText.fold_balanced_iff h hab hf).1 hall
  · intro hfolds
    by_cases hsome : ∃ a b, s.Folds act a b
    · obtain ⟨a, b, hfold⟩ := hsome
      obtain ⟨hab, hf⟩ := hfold.state_act
      exact (FoldedText.fold_balanced_iff h hab hf).2 (hfolds a b hfold)
    · exact act_balanced h fun a b hfold => hsome ⟨a, b, hfold⟩

/-- **When only balanced text is folded away.** The pieces of a session are balanced all along
exactly if every fold hides balanced text; and every fold does if no backslash in its stretch
reaches across an end of a token there. -/
theorem run_balanced_iff (surface : Option σ) (seed : Text) (actions : List (Action σ)) :
    let after (n : Nat) : Session σ := (new surface seed).run (actions.take n)
    ((∀ n, ∀ p ∈ (after n).state.pieces, isBalanced p = true) ↔
      ∀ n act, actions[n]? = some act → ∀ a b, (after n).Folds act a b →
        isBalanced ((after n).state.hidden a b) = true) ∧
    ((∀ n act, actions[n]? = some act → ∀ a b, (after n).Folds act a b →
        (after n).state.EscapesStay a b) →
      ∀ n, ∀ p ∈ (after n).state.pieces, isBalanced p = true) := by
  intro after
  have hstart : (new surface seed).state.Balanced := fun p hp => nomatch hp
  have hstep (s : Session σ) (act : Action σ) (hs : s.state.Balanced) := act_balanced_iff hs act
  constructor
  · exact run_always_iff (P := fun s => s.state.Balanced) hstep hstart actions
  · intro hstay
    refine run_always (P := fun s => s.state.Balanced)
      (Q := fun s act => ∀ a b, s.Folds act a b → s.state.EscapesStay a b) ?_ hstart hstay
    intro s act hs hq
    refine (hstep s act hs).2 fun a b hfold => ?_
    obtain ⟨hab, hf⟩ := hfold.state_act
    exact FoldedText.hidden_balanced hs hab hf (hq a b hfold)

/-- Two backslashes before a token, the second of which is taken by the first. -/
theorem run_balanced_iff_pair :
    let actions : List (Action TextBox) := [.fold (some (3, 6)), .fold (some (0, 7))]
    let after (n : Nat) : Session TextBox :=
      (new none "[\\\\[x]]".toList).run (actions.take n)
    (after 1).state.buffer = "[\\\\[*]]".toList ∧ (after 2).state.pieces = ["[\\\\[x]]".toList] ∧
      ∀ n, ∀ p ∈ (after n).state.pieces, isBalanced p = true := by
  intro actions after
  have hfolds := (run_balanced_iff (none : Option TextBox) "[\\\\[x]]".toList actions).2
  refine ⟨by decide +kernel, by decide +kernel, hfolds fun n act hact a b hfold => ?_⟩
  obtain ⟨given, start, stop, f', rfl, hselected, ha, hb, -⟩ := hfold
  match n, hact with
  | 0, hact =>
    cases hact
    cases hselected
    obtain rfl : a = 3 := by omega
    obtain rfl : b = 6 := by omega
    decide +kernel
  | 1, hact =>
    cases hact
    cases hselected
    obtain rfl : a = 0 := by omega
    obtain rfl : b = 7 := by omega
    decide +kernel

/-- A backslash before a token takes the bracket that opens it. The one that closes it then goes
with the bracket before the backslash, and behind the token there is none to go with that. -/
theorem not_run_balanced :
    ¬ ∀ (seed : Text) (actions : List (Action TextBox)),
      ∀ p ∈ ((new none seed).run actions).state.pieces, isBalanced p = true := by
  intro h
  have hp := h "[\\x".toList [.fold (some (2, 3)), .fold (some (0, 5))] "[\\x".toList (by decide)
  exact absurd hp (by decide)

end Session

end CitationStudio.Marking
