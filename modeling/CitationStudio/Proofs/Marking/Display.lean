import CitationStudio.Proofs.Marking.Run
import CitationStudio.Proofs.Fold.Accepted
import CitationStudio.Proofs.Fold.Alignment

/-! # A box shows the buffer of its session

A session shows its buffer in a box, and the author types into the box before the session knows of
it. If what is typed is taken, the buffer has become what the box holds, since every smallest edit
leads from the old text to the new one; if not, the box gets the buffer back. Nothing else changes
the text of the one without that of the other. -/

namespace CitationStudio

namespace Marking

/-- What an author can do with a box and the session that shows its buffer there. -/
inductive Deed where
  /-- What the box holds once the author has typed. -/
  | type (held : TextBox)
  | select (stretch : Option (Int × Int))
  | toExpr (given : Option (Int × Int))
  | toLiteral (given : Option (Int × Int))
  | fold (given : Option (Int × Int))
  | unfold
  | clear
  | send

namespace Session

/-- The box is changed, and the session does not know of it yet. -/
def touch (s : Session TextBox) : Deed → Session TextBox
  | .type held => { s with surface := s.surface.map fun _ => held }
  | .select stretch => { s with surface := s.surface.map fun b => { b with selection := stretch } }
  | .toExpr _ | .toLiteral _ | .fold _ | .unfold | .clear | .send => s

/-- The session does its part, and answers if it can refuse to. -/
def follow (s : Session TextBox) : Deed → Session TextBox × Option Bool
  | .type held => (s.type held.text).map id some
  | .toExpr given => (s.toExpr given).map id some
  | .toLiteral given => (s.toLiteral given).map id some
  | .fold given => (s.fold given).map id some
  | .unfold => s.unfold.map id some
  | .clear => (s.clear, none)
  | .select _ | .send => (s, none)

def perform (s : Session TextBox) (d : Deed) : Session TextBox := ((s.touch d).follow d).1

/-- The box holds the buffer. -/
def Shown (s : Session TextBox) : Prop := ∃ b, s.surface = some b ∧ b.text = s.state.buffer

/-- What the session does keeps the box in step, and where it refuses to do anything, its text is as
it was and the box as it was touched, or else it holds the buffer again. -/
structure Follows (s s' : Session TextBox) (answer : Option Bool) : Prop where
  shown : s'.Shown
  refused : answer = some false → s'.state = s.state ∧
    (s'.surface = s.surface ∨ s'.surface = some (TextBox.ofText s.state.buffer))

theorem follows_done {s s' : Session TextBox} {answer : Option Bool} (h : s'.Shown)
    (hanswer : answer ≠ some false) : Follows s s' answer := ⟨h, fun h => absurd h hanswer⟩

theorem follows_refuse {s : Session TextBox} (h : s.Shown) (r : Refusal) :
    Follows s (s.refuse r).1 (some false) := ⟨h, fun _ => ⟨rfl, .inl rfl⟩⟩

theorem display_box (b : TextBox) (t : Text) : Surface.display (some b) t =
    some (if b.text = t then b else TextBox.ofText t) := rfl

theorem shown_present {s : Session TextBox} {b : TextBox} (h : s.surface = some b) :
    s.present.Shown := by
  refine ⟨_, (congrArg (Surface.display · s.state.buffer) h).trans (display_box ..), ?_⟩
  split
  · assumption
  · rfl

/-! ## Each operation -/

theorem firstEdit_buffer {f f' : FoldedText} {t : Text}
    (h : firstEdit f (Edit.alignments f.buffer t) = some (.ok f')) : f'.buffer = t := by
  obtain ⟨e, he, hedit⟩ := firstEdit_ok h
  have hturns := Edit.turns_of_mem_alignments he
  have hle := hturns.start_le
  obtain ⟨a, b, ha, hb, hedits, -⟩ := FoldedText.edit_turns hedit
  obtain rfl : a = e.start := by omega
  obtain rfl : b = e.stop := by omega
  exact hedits.apply_eq.symm.trans hturns.apply_eq

theorem type_follows {s : Session TextBox} {b : TextBox} (h : s.surface = some b) :
    Follows s (s.type b.text).1 (some (s.type b.text).2) := by
  have hback : s.present.surface = s.surface ∨
      s.present.surface = some (TextBox.ofText s.state.buffer) := by
    simp only [present, h, display_box]
    split
    · exact .inl rfl
    · exact .inr rfl
  unfold type
  split
  · rename_i hsame
    exact ⟨⟨b, h, hsame⟩, fun _ => ⟨rfl, .inl rfl⟩⟩
  · split
    · rename_i f hf
      exact follows_done ⟨b, h, (firstEdit_buffer hf).symm⟩ nofun
    · exact ⟨shown_present h, fun _ => ⟨rfl, hback⟩⟩
    · exact ⟨shown_present h, fun _ => ⟨rfl, hback⟩⟩

/-- An operation on a selection leaves the surface alone. -/
theorem onSelection_surface (s : Session TextBox) (given : Option (Int × Int))
    (op : FoldedText → Int → Int → Except Fold.Refusal FoldedText) :
    (s.onSelection given op).1.surface = s.surface := by
  unfold onSelection
  split
  · rfl
  · split <;> rfl

theorem onSelection_follows {s : Session TextBox} (h : s.Shown) (given : Option (Int × Int))
    {op : FoldedText → Int → Int → Except Fold.Refusal FoldedText}
    (hop : ∀ {f f' : FoldedText} {a b : Int}, op f a b = .ok f' → f'.buffer = f.buffer) :
    Follows s (s.onSelection given op).1 (some (s.onSelection given op).2) := by
  have hsurface := s.onSelection_surface given op
  obtain ⟨b, hb, htext⟩ := h
  rcases s.onSelection_cases given op with ⟨_, _, hok, hdone⟩ | ⟨hstate, hdone⟩
  · refine follows_done ⟨b, hsurface.trans hb, htext.trans (hop hok).symm⟩ ?_
    rw [hdone]
    nofun
  · exact ⟨⟨b, hsurface.trans hb, by rw [htext, hstate]⟩, fun _ => ⟨hstate, .inl hsurface⟩⟩

theorem fold_follows {s : Session TextBox} (h : s.Shown) (given : Option (Int × Int)) :
    Follows s (s.fold given).1 (some (s.fold given).2) := by
  have hsurface := s.onSelection_surface given FoldedText.fold
  have hcases := s.onSelection_cases given FoldedText.fold
  obtain ⟨b, hb, htext⟩ := h
  unfold fold
  split
  · rename_i s' hs
    rw [hs] at hsurface
    exact follows_done (shown_present (hsurface.trans hb)) nofun
  · rename_i s' hs
    rw [hs] at hsurface hcases
    rcases hcases with ⟨_, _, -, hdone⟩ | ⟨hstate, -⟩
    · cases hdone
    · dsimp only at hsurface hstate
      exact ⟨⟨b, hsurface.trans hb, by rw [htext, hstate]⟩, fun _ => ⟨hstate, .inl hsurface⟩⟩

theorem unfold_follows {s : Session TextBox} (h : s.Shown) :
    Follows s s.unfold.1 (some s.unfold.2) := by
  unfold unfold
  split
  · exact follows_refuse h _
  · obtain ⟨b, hb, -⟩ := h
    exact follows_done (shown_present hb) nofun

/-! ## Runs -/

theorem perform_follows {s : Session TextBox} (h : s.Shown) (d : Deed) :
    Follows (s.touch d) (s.perform d) ((s.touch d).follow d).2 := by
  obtain ⟨b, hb, htext⟩ := h
  cases d with
  | type held => exact type_follows (congrArg (Option.map fun _ => held) hb)
  | select stretch =>
    refine follows_done ⟨{ b with selection := stretch }, ?_, htext⟩ nofun
    exact congrArg (Option.map fun b => { b with selection := stretch }) hb
  | toExpr given =>
    exact onSelection_follows ⟨b, hb, htext⟩ given fun hop => by
      rw [(FoldedText.markExpr_inv hop).2]
  | toLiteral given =>
    exact onSelection_follows ⟨b, hb, htext⟩ given fun hop => by
      rw [(FoldedText.markLiteral_inv hop).2]
  | fold given => exact fold_follows ⟨b, hb, htext⟩ given
  | unfold => exact unfold_follows ⟨b, hb, htext⟩
  | clear => exact follows_done (shown_present hb) nofun
  | send => exact follows_done ⟨b, hb, htext⟩ nofun

theorem touch_state (s : Session TextBox) (d : Deed) : (s.touch d).state = s.state := by
  cases d <;> rfl

theorem foldl_perform_shown (deeds : List Deed) {s : Session TextBox} (h : s.Shown) :
    (deeds.foldl perform s).Shown := by
  induction deeds generalizing s with
  | nil => exact h
  | cons d deeds ih => exact ih (perform_follows h d).shown

/-- **A session and its box never drift apart.** Whatever an author does, the box holds the buffer
when the session has done its part. Where the session refuses, its buffer, pieces and marks are as
they were, and the box is left as the author touched it, or gets the buffer back. -/
theorem run_shown (box : TextBox) (seed : Text) (deeds : List Deed) :
    let s := deeds.foldl perform (new (some box) seed)
    (∃ b, s.surface = some b ∧ b.text = s.state.buffer) ∧
      ∀ d, ((s.touch d).follow d).2 = some false → (s.perform d).state = s.state ∧
        ((s.perform d).surface = (s.touch d).surface ∨
          (s.perform d).surface = some (TextBox.ofText s.state.buffer)) := by
  intro s
  have hshown : s.Shown := foldl_perform_shown deeds (shown_present rfl)
  refine ⟨hshown, fun d hrefused => ?_⟩
  have h := (perform_follows hshown d).refused hrefused
  rwa [touch_state] at h

/-- What is typed into a token is taken back. -/
example : (([.fold (some (1, 4)), .type (.ofText "a[x*]d".toList)] : List Deed).foldl perform
    (new (some (.ofText [])) "a(b)d".toList)).surface = some (.ofText "a[*]d".toList) := by
  decide +kernel

end Session

end Marking

end CitationStudio
