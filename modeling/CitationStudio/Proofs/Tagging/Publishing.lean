import CitationStudio.Proofs.Tagging.Preview

/-! # What a session tells its feed

An operation that is carried out tells the feed once, when all of its changes are made, and one that
is refused has changed nothing by then but the error. So the feed always holds the output and the
names of the slots, and a listener hears of every change once and of nothing else. -/

namespace CitationStudio.Tagging.Session

variable {σ : Type}

/-- The feed is told once, of what the session has become. -/
def Tells (s s' : Session σ) : Prop := s'.feed = s.feed.publish s'.template.slots s'.output

/-- An operation that answers: it is carried out and the feed is told, or it is refused and nothing
changes but the error. -/
structure Answers (s s' : Session σ) (done : Bool) : Prop where
  told : done = true → Tells s s'
  refused : done = false → s' = { s with error := s'.error }

theorem answers_done {s s' : Session σ} (h : Tells s s') : Answers s s' true :=
  ⟨fun _ => h, nofun⟩

theorem answers_refuse (s : Session σ) (r : Refusal) : Answers s (s.refuse r).1 false :=
  ⟨nofun, fun _ => rfl⟩

theorem answers_idle (s : Session σ) : Answers s s false := ⟨nofun, fun _ => rfl⟩

theorem type_answers (s : Session σ) (t : Text) : Answers s (s.type t).1 (s.type t).2 := by
  unfold type
  split
  · exact answers_idle s
  · exact answers_done rfl

theorem wrap_answers (s : Session σ) : Answers s s.wrap.1 s.wrap.2 := by
  unfold wrap
  split
  · exact answers_idle s
  · split
    · exact answers_done rfl
    · exact answers_refuse s _

theorem undo_answers (s : Session σ) : Answers s s.undo.1 s.undo.2 := by
  unfold undo
  split
  · exact answers_done rfl
  · exact answers_idle s

theorem convertAt_answers {s s' : Session σ} {sort : Text} {a b : Int} {done : Bool}
    (h : s.convertAt sort a b = .ok (s', done)) : Answers s s' done := by
  rcases convertAt_cases h with ⟨rfl, r, rfl⟩ | ⟨rfl, items, -, -, -, rfl⟩
  · exact answers_refuse s r
  · exact answers_done rfl

theorem stripped_eq_self_iff {t : Text} : stripped t = t ↔ '[' ∉ t ∧ ']' ∉ t := by
  rw [stripped, List.filter_eq_self]
  constructor
  · intro h
    refine ⟨fun ho => ?_, fun hc => ?_⟩
    · exact absurd (h '[' ho) (by decide)
    · exact absurd (h ']' hc) (by decide)
  · rintro ⟨ho, hc⟩ c hmem
    rw [Bool.and_eq_true, decide_eq_true_iff, decide_eq_true_iff]
    exact ⟨fun he => ho (he ▸ hmem), fun he => hc (he ▸ hmem)⟩

theorem copy_refused {s : Session σ} {c : Clipboard} (h : (s.copy c).2.1 = false) :
    (s.copy c).1 = { s with error := (s.copy c).1.error } := by
  unfold copy at h ⊢
  dsimp only at h ⊢
  split
  · rfl
  · cases c <;> rfl

theorem copy_feed (s : Session σ) (c : Clipboard) : (s.copy c).1.feed = s.feed := by
  unfold copy
  dsimp only
  split
  · rfl
  · cases c <;> rfl

variable [Surface σ]

theorem convert_answers {s s' : Session σ} {sort : Text} {given : Option (Int × Int)} {done : Bool}
    (h : s.convert sort given = .ok (s', done)) : Answers s s' done := by
  unfold convert at h
  split at h
  · cases h
    exact answers_refuse s _
  · exact convertAt_answers h

/-- What an action answers, unless it has no answer or is an error of the caller. -/
def answer (s : Session σ) : Action σ → Option Bool
  | .type t => some (s.type t).2
  | .convert sort given => (s.convert sort given).toOption.map Prod.snd
  | .wrap => some s.wrap.2
  | .undo => some s.undo.2
  | .copy c => some (s.copy c).2.1
  | _ => none

/-- Does an action make something current, be it what was current before? -/
def Takes (s : Session σ) : Action σ → Prop
  | .apply _ | .load _ => True
  | .stripBrackets => s.locked = false ∧ ('[' ∈ s.input ∨ ']' ∈ s.input)
  | .type t => s.answer (.type t) = some true
  | .convert sort given => s.answer (.convert sort given) = some true
  | .wrap => s.answer .wrap = some true
  | .undo => s.answer .undo = some true
  | .toggleLock | .togglePick _ | .pick _ | .clearPicks | .copy _ | .surface _ => False

theorem act_answers {s : Session σ} {a : Action σ} {done : Bool} (h : s.answer a = some done) :
    Answers s (s.act a) done ∨ ∃ c, a = .copy c := by
  cases a with
  | type t =>
    obtain rfl := Option.some.inj h
    exact .inl (type_answers s t)
  | wrap =>
    obtain rfl := Option.some.inj h
    exact .inl (wrap_answers s)
  | undo =>
    obtain rfl := Option.some.inj h
    exact .inl (undo_answers s)
  | convert sort given =>
    simp only [answer, act] at h ⊢
    cases hc : s.convert sort given with
    | error e =>
      rw [hc] at h
      cases h
    | ok r =>
      rw [hc] at h
      obtain rfl := Option.some.inj h
      exact .inl (convert_answers hc)
  | copy c => exact .inr ⟨c, rfl⟩
  | apply _ | load _ | stripBrackets | toggleLock | togglePick _ | pick _ | clearPicks
  | surface _ => cases h

/-- What is refused changes nothing but the error. -/
theorem act_refused {s : Session σ} {a : Action σ} (h : s.answer a = some false) :
    s.act a = { s with error := (s.act a).error } := by
  rcases act_answers h with hanswers | ⟨c, rfl⟩
  · exact hanswers.refused rfl
  · exact copy_refused (Option.some.inj h)

theorem act_tells {s : Session σ} {a : Action σ} (h : s.Takes a) : Tells s (s.act a) := by
  have hdone (ha : ∀ c, a ≠ .copy c) (hanswer : s.answer a = some true) : Tells s (s.act a) := by
    rcases act_answers hanswer with hanswers | ⟨c, hc⟩
    · exact hanswers.told rfl
    · exact absurd hc (ha c)
  cases a with
  | apply t | load t => rfl
  | stripBrackets =>
    obtain ⟨hlocked, hmem⟩ := h
    have hchanged : stripped s.input ≠ s.input := fun he => by
      obtain ⟨ho, hc⟩ := stripped_eq_self_iff.1 he
      exact hmem.elim ho hc
    simp only [act, stripBrackets, hlocked, Bool.false_or, decide_eq_true_eq, if_neg hchanged]
    rfl
  | type t | convert sort given | wrap | undo => exact hdone (by simp) h
  | toggleLock | togglePick _ | pick _ | clearPicks | copy _ | surface _ => exact h.elim

theorem act_silent {s : Session σ} {a : Action σ} (h : ¬ s.Takes a) :
    (s.act a).feed = s.feed := by
  have hrefused (hanswer : s.answer a = some false) : (s.act a).feed = s.feed := by
    rw [act_refused hanswer]
  cases a with
  | apply t | load t => exact absurd trivial h
  | stripBrackets =>
    simp only [act, stripBrackets]
    split
    · rfl
    · rename_i hstrip
      refine absurd ?_ h
      simp only [Bool.or_eq_true, decide_eq_true_eq, not_or, Bool.not_eq_true,
        stripped_eq_self_iff] at hstrip
      exact ⟨hstrip.1, Decidable.byContradiction fun hnone =>
        hstrip.2 ⟨fun ho => hnone (.inl ho), fun hc => hnone (.inr hc)⟩⟩
  | type t => exact hrefused (congrArg some (Bool.eq_false_iff.2 fun ht => h (congrArg some ht)))
  | wrap => exact hrefused (congrArg some (Bool.eq_false_iff.2 fun ht => h (congrArg some ht)))
  | undo => exact hrefused (congrArg some (Bool.eq_false_iff.2 fun ht => h (congrArg some ht)))
  | convert sort given =>
    cases hc : s.convert sort given with
    | error e => simp only [act, hc]
    | ok r =>
      have hanswer : s.answer (.convert sort given) = some r.2 := by
        simp only [answer, hc]
        rfl
      refine hrefused (hanswer.trans (congrArg some (Bool.eq_false_iff.2 fun ht => h ?_)))
      exact hanswer.trans (congrArg some ht)
  | copy c => exact copy_feed s c
  | toggleLock | togglePick _ | pick _ | clearPicks | surface _ => rfl

/-- **A feed is never behind, and hears of nothing that is refused.** After any actions the feed of
a session holds the names of the slots and the output. An action that makes something current tells
the feed once, of what the session is then, and every other action tells it nothing. An action that
answers that it was refused leaves the session as it was, its parts, their stamps and the history
included, but for the error. -/
theorem run_tells (surface : Option σ) (feed : Feed) (limit : Option Int)
    (actions : List (Action σ)) :
    let s := (Session.new surface feed limit).run actions
    s.feed.names = s.template.slots ∧ s.feed.template = s.template.compiled ∧
      ∀ a, (s.Takes a →
          (s.act a).feed = s.feed.publish (s.act a).template.slots (s.act a).template.compiled) ∧
        (¬ s.Takes a → (s.act a).feed = s.feed) ∧
        (s.answer a = some false →
          ¬ s.Takes a ∧ s.act a = { s with error := (s.act a).error }) := by
  intro s
  obtain ⟨hnames, htemplate⟩ :=
    run_published actions (s := Session.new surface feed limit) ⟨rfl, rfl⟩
  refine ⟨hnames, htemplate, fun a => ⟨act_tells, act_silent, fun h => ⟨?_, act_refused h⟩⟩⟩
  cases a with
  | type t | convert sort given | wrap | undo => exact fun htakes => by cases h.symm.trans htakes
  | copy c => exact id
  | apply t | load t | stripBrackets | toggleLock | togglePick _ | pick _ | clearPicks
  | surface _ => cases h

end CitationStudio.Tagging.Session
