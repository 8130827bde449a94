import CitationStudio.Marking.Session
import CitationStudio.Proofs.Fold.Sound

/-! # Runs of a marking session

Whatever the author does, the text of the session changes in one of a few ways, listed in
`Change`, or not at all. The laws of a session are about the text, and follow from its changes. -/

namespace CitationStudio.Marking

inductive Action (σ : Type) where
  | type (t : Text)
  | toExpr (given : Option (Int × Int))
  | toLiteral (given : Option (Int × Int))
  | fold (given : Option (Int × Int))
  | unfold
  | clear
  /-- The surface is changed from outside: another selection, another text. -/
  | surface (now : Option σ)

/-- What a step can make of a folded text. -/
inductive Change (f : FoldedText) : FoldedText → Prop
  | same : Change f f
  | edited {start stop : Int} {t : Text} {f' : FoldedText} :
      f.edit start stop t = .ok f' → Change f f'
  | marked {start stop : Int} {f' : FoldedText} : f.markExpr start stop = .ok f' → Change f f'
  | unmarked {start stop : Int} {f' : FoldedText} :
      f.markLiteral start stop = .ok f' → Change f f'
  | folded {start stop : Int} {f' : FoldedText} : f.fold start stop = .ok f' → Change f f'
  | unfolded : f.pieces ≠ [] → Change f f.unfold
  | cleared : Change f (FoldedText.ofText [])

namespace Session

variable {σ : Type}

theorem firstEdit_ok {f f' : FoldedText} {es : List Edit} (h : firstEdit f es = some (.ok f')) :
    ∃ e ∈ es, f.edit e.start e.stop e.inserted = .ok f' := by
  induction es with
  | nil => cases h
  | cons e es ih =>
    rw [firstEdit] at h
    split at h
    · rename_i he
      cases h
      exact ⟨e, List.mem_cons_self .., he⟩
    · split at h
      · rename_i hf
        cases h
        obtain ⟨e', hm, he'⟩ := ih hf
        exact ⟨e', List.mem_cons_of_mem _ hm, he'⟩
      · cases h

variable [Surface σ]

theorem type_cases (s : Session σ) (t : Text) :
    (∃ start stop inserted, s.state.edit start stop inserted = .ok (s.type t).1.state) ∨
      (s.type t).1.state = s.state := by
  unfold type
  split
  · exact .inr rfl
  · split
    · rename_i f' hf
      obtain ⟨e, -, he⟩ := firstEdit_ok hf
      exact .inl ⟨e.start, e.stop, e.inserted, he⟩
    · exact .inr rfl
    · exact .inr rfl

theorem onSelection_cases (s : Session σ) (given : Option (Int × Int))
    (op : FoldedText → Int → Int → Except Fold.Refusal FoldedText) :
    (∃ start stop, op s.state start stop = .ok (s.onSelection given op).1.state ∧
      (s.onSelection given op).2 = true) ∨
    ((s.onSelection given op).1.state = s.state ∧ (s.onSelection given op).2 = false) := by
  unfold onSelection
  split
  · exact .inr ⟨rfl, rfl⟩
  · rename_i a b _
    split
    · rename_i f' hf
      exact .inl ⟨min a b, max a b, hf, rfl⟩
    · exact .inr ⟨rfl, rfl⟩

theorem fold_cases (s : Session σ) (given : Option (Int × Int)) :
    (∃ start stop, s.state.fold start stop = .ok (s.fold given).1.state ∧
      (s.fold given).2 = true) ∨
    ((s.fold given).1.state = s.state ∧ (s.fold given).2 = false) := by
  have h := s.onSelection_cases given FoldedText.fold
  unfold fold
  split
  · rename_i s' hs
    rw [hs] at h
    exact h
  · rename_i s' hs
    rw [hs] at h
    exact h

theorem unfold_cases (s : Session σ) :
    (s.state.pieces ≠ [] ∧ s.unfold.1.state = s.state.unfold) ∨
      (s.state.pieces = [] ∧ s.unfold.1.state = s.state) := by
  unfold unfold
  split
  · rename_i hp
    exact .inr ⟨List.isEmpty_iff.1 hp, rfl⟩
  · rename_i hp
    exact .inl ⟨fun h => hp (List.isEmpty_iff.2 h), rfl⟩

def act (s : Session σ) : Action σ → Session σ
  | .type t => (s.type t).1
  | .toExpr given => (s.toExpr given).1
  | .toLiteral given => (s.toLiteral given).1
  | .fold given => (s.fold given).1
  | .unfold => s.unfold.1
  | .clear => s.clear
  | .surface now => { s with surface := now }

def run (s : Session σ) (actions : List (Action σ)) : Session σ := actions.foldl act s

/-- Every action is one of these changes. -/
theorem act_change (s : Session σ) (a : Action σ) : Change s.state (s.act a).state := by
  cases a with
  | type t =>
    rcases s.type_cases t with ⟨a, b, inserted, h⟩ | h
    · exact .edited h
    · exact h ▸ .same
  | toExpr given =>
    rcases s.onSelection_cases given FoldedText.markExpr with ⟨a, b, h, -⟩ | ⟨h, -⟩
    · exact .marked h
    · exact h ▸ .same
  | toLiteral given =>
    rcases s.onSelection_cases given FoldedText.markLiteral with ⟨a, b, h, -⟩ | ⟨h, -⟩
    · exact .unmarked h
    · exact h ▸ .same
  | fold given =>
    rcases s.fold_cases given with ⟨a, b, h, -⟩ | ⟨h, -⟩
    · exact .folded h
    · exact h ▸ .same
  | unfold =>
    rcases s.unfold_cases with ⟨hp, h⟩ | ⟨-, h⟩
    · exact h ▸ .unfolded hp
    · exact h ▸ .same
  | clear => exact .cleared
  | surface now => exact .same

end Session

/-- Whatever is done to a text, its marks stay canonical and in the buffer. -/
theorem Change.sound {f f' : FoldedText} (hc : Change f f') (h : f.Sound) : f'.Sound := by
  cases hc with
  | same => exact h
  | edited he => exact FoldedText.sound_edit he h.inBounds
  | marked hm => exact FoldedText.sound_markExpr hm h.inBounds
  | unmarked hm => exact FoldedText.sound_markLiteral hm h.inBounds
  | folded hf => exact FoldedText.sound_fold hf h.inBounds
  | unfolded => exact f.sound_unfold
  | cleared => exact FoldedText.sound_ofText []

namespace Session

variable {σ : Type} [Surface σ]

theorem run_sound (actions : List (Action σ)) {s : Session σ} (h : s.state.Sound) :
    (s.run actions).state.Sound := by
  induction actions generalizing s with
  | nil => exact h
  | cons a actions ih => exact ih ((act_change s a).sound h)

theorem run_take_succ (s : Session σ) (actions : List (Action σ)) (n : Nat) :
    s.run (actions.take (n + 1)) = match actions[n]? with
      | some a => (s.run (actions.take n)).act a
      | none => s.run (actions.take n) := by
  rw [List.take_add_one, run, List.foldl_append]
  cases actions[n]? <;> rfl

/-- A property of sessions that actions keep on a condition holds all along a run if each of its
actions meets the condition when it is done. -/
theorem run_always {P : Session σ → Prop} {Q : Session σ → Action σ → Prop}
    (hstep : ∀ s a, P s → Q s a → P (s.act a)) {s : Session σ} (h : P s) {actions : List (Action σ)}
    (hq : ∀ n a, actions[n]? = some a → Q (s.run (actions.take n)) a) (n : Nat) :
    P (s.run (actions.take n)) := by
  induction n with
  | zero => exact h
  | succ n ih =>
    rw [run_take_succ]
    cases ha : actions[n]? with
    | none => exact ih
    | some a => exact hstep _ a ih (hq n a ha)

/-- If the condition is needed as well, the property holds all along just if each action meets it.
-/
theorem run_always_iff {P : Session σ → Prop} {Q : Session σ → Action σ → Prop}
    (hstep : ∀ s a, P s → (P (s.act a) ↔ Q s a)) {s : Session σ} (h : P s)
    (actions : List (Action σ)) : (∀ n, P (s.run (actions.take n))) ↔
      ∀ n a, actions[n]? = some a → Q (s.run (actions.take n)) a := by
  constructor
  · intro hall n a ha
    have hnext := hall (n + 1)
    rw [run_take_succ, ha] at hnext
    exact (hstep _ a (hall n)).1 hnext
  · intro hq
    exact run_always (fun s a hs => (hstep s a hs).2) h hq

/-- **The marks of a session are canonical**, after any actions, done or refused: none is empty or
goes out of the buffer, and each ends before the next one starts, with a gap in between. -/
theorem run_spans_canonical (surface : Option σ) (seed : Text) (actions : List (Action σ)) :
    let f := ((new surface seed).run actions).state
    (∀ s ∈ f.spans, 0 ≤ s.start ∧ s.start < s.stop ∧ s.stop ≤ f.buffer.length) ∧
      f.spans.Pairwise fun s t => s.stop < t.start := by
  intro f
  have hsound : f.Sound := run_sound actions (FoldedText.sound_ofText seed)
  refine ⟨fun s hs => ?_, hsound.canonical.pairwise⟩
  obtain ⟨h0, hl⟩ := hsound.within s hs
  exact ⟨h0, hsound.canonical.nonempty hs, hl⟩

end Session

end CitationStudio.Marking
