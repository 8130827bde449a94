import CitationStudio.Proofs.Template.Snapshots

/-! # Undo with a limit

A template with a limited history runs like one that keeps everything. Every step that goes forward
does the same to the parts of both, and the history of the first is what the second recorded last
(`Lags`). They part only where the first has nothing to go back to and the second has.

What a history holds is said without any limit: the states before those changes that are recorded,
the latest first. A limit keeps the first of them, and each undo takes one. -/

namespace CitationStudio.Template

/-- What can be done to a template. The entries that a replacement keeps may be any that its author
has at hand, from the template or from earlier states of it. -/
inductive Action where
  | add (p : Part)
  | wrap (first last : Value)
  | replace (items : List Item) (record reset : Bool)
  | undo

inductive Answer where
  | done
  | refused (e : WrapError)
  | undone (back : Bool)
  deriving Repr, DecidableEq

namespace Action

def records : Action → Bool
  | add _ | wrap _ _ => true
  | replace _ record _ => record
  | undo => false

def resets : Action → Bool
  | replace _ _ reset => reset
  | _ => false

/-- Does the action leave what is in the history there? -/
def advances : Action → Bool
  | undo => false
  | a => !a.resets

end Action

/-- The template after an action, and what is told. -/
def act (t : Template) : Action → Template × Answer
  | .add p => (t.add p, .done)
  | .wrap first last =>
    match t.wrapValues first last with
    | .ok t' => (t', .done)
    | .error e => (t, .refused e)
  | .replace items record reset => (t.replace items record reset, .done)
  | .undo =>
    match t.undo? with
    | some t' => (t', .undone true)
    | none => (t, .undone false)

def run (t : Template) : List Action → Template × List Answer
  | [] => (t, [])
  | a :: actions =>
    let (t', answer) := t.act a
    let (t'', answers) := t'.run actions
    (t'', answer :: answers)

theorem run_cons (t : Template) (a : Action) (actions : List Action) : t.run (a :: actions) =
    (((t.act a).1.run actions).1, (t.act a).2 :: ((t.act a).1.run actions).2) := rfl

/-! ## Going forward -/

/-- Whether a wrap is refused, and what it groups, depends on the size of the template. -/
theorem wrapValues_cases (n : Nat) (first last : Value) :
    (∃ e, ∀ t : Template, t.size = n → t.wrapValues first last = .error e) ∨
      ∃ a b, ∀ t : Template, t.size = n → t.wrapValues first last = .ok (t.group a b) := by
  unfold wrapValues
  split
  · rename_i a b
    unfold wrap
    by_cases hab : b < a
    · exact .inl ⟨.inverted, fun t _ => if_pos hab⟩
    · by_cases hn : a < 0 ∨ (n : Int) ≤ b
      · exact .inl ⟨.outOfRange, fun t ht => by rw [if_neg hab, ht, if_pos hn]⟩
      · exact .inr ⟨a.toNat, b.toNat, fun t ht => by rw [if_neg hab, ht, if_neg hn]⟩
  · exact .inl ⟨_, fun _ _ => rfl⟩
  · exact .inl ⟨_, fun _ _ => rfl⟩

/-- Every action but undo is refused or replaces the entries. Which of the two, and what it puts in
their place, depends on the entries only. -/
theorem act_forward {a : Action} (ha : a ≠ .undo) (es : List Entry) :
    (∃ e, ∀ t : Template, t.entries = es → t.act a = (t, .refused e)) ∨
      ∃ items, ∀ t : Template, t.entries = es →
        t.act a = (t.replace items a.records a.resets, .done) := by
  cases a with
  | add p => exact .inr ⟨kept es ++ [.new p], fun t ht => by rw [← ht]; rfl⟩
  | wrap first last =>
    rcases wrapValues_cases es.length first last with ⟨e, h⟩ | ⟨a, b, h⟩
    · exact .inl ⟨e, fun t ht => by rw [act, h t (congrArg List.length ht)]⟩
    · refine .inr ⟨grouping es a b, fun t ht => ?_⟩
      rw [act, h t (congrArg List.length ht), ← ht]
      rfl
  | replace items record reset => exact .inr ⟨items, fun t _ => rfl⟩
  | undo => exact absurd rfl ha

theorem act_refused {t : Template} {a : Action} {e : WrapError}
    (h : (t.act a).2 = .refused e) : (t.act a).1 = t := by
  by_cases ha : a = .undo
  · subst ha
    unfold act at h
    dsimp only at h
    split at h <;> cases h
  · rcases act_forward ha t.entries with ⟨e', hact⟩ | ⟨items, hact⟩
    · rw [hact t rfl]
    · rw [hact t rfl] at h
      cases h

/-! ## Going back -/

theorem act_undo_nil {t : Template} (h : t.history = []) : t.act .undo = (t, .undone false) := by
  rw [act, undo?, h]

theorem act_undo_cons {t : Template} {es : List Entry} {older : List (List Entry)}
    (h : t.history = es :: older) :
    t.act .undo = ({ t with entries := es, history := older }, .undone true) := by
  rw [act, undo?, h]

/-- As many undos in a row succeed as there are states in the history. -/
theorem run_undo (t : Template) (m : Nat) : (t.run (List.replicate m .undo)).2 =
    List.replicate (min m t.history.length) (.undone true) ++
      List.replicate (m - t.history.length) (.undone false) := by
  induction m generalizing t with
  | zero => simp [run]
  | succ m ih =>
    rw [List.replicate_succ, run_cons]
    cases h : t.history with
    | nil =>
      rw [act_undo_nil h, ih, h, List.length_nil, Nat.min_zero, Nat.min_zero]
      rfl
    | cons es older =>
      rw [act_undo_cons h, ih, List.length_cons, Nat.add_min_add_right, Nat.add_sub_add_right,
        List.replicate_succ, List.cons_append]

theorem run_undo_entries (t : Template) {m : Nat} (hm : m ≤ t.history.length) :
    t.snapshots[m]? = some (t.run (List.replicate m .undo)).1.entries := by
  induction m generalizing t with
  | zero => rfl
  | succ m ih =>
    rw [List.replicate_succ, run_cons]
    cases h : t.history with
    | nil =>
      rw [h] at hm
      cases hm
    | cons es older =>
      rw [h] at hm
      rw [act_undo_cons h, ← ih _ (Nat.le_of_succ_le_succ hm), snapshots, h]
      rfl

/-! ## A limit -/

/-- The first template has the parts of the second and as much of its history as a limit allows for,
or less. -/
structure Lags (limit : Nat) (t whole : Template) : Prop where
  entries : t.entries = whole.entries
  nextStamp : t.nextStamp = whole.nextStamp
  history : t.history <+: whole.history
  length : t.history.length ≤ limit
  limited : t.limit = some limit
  unlimited : whole.limit = none

theorem lags_empty (limit : Nat) : Lags limit (empty (some limit)) (empty none) :=
  ⟨rfl, rfl, List.prefix_refl _, Nat.zero_le _, rfl, rfl⟩

namespace Lags

variable {limit : Nat} {t whole : Template}

theorem replace (h : Lags limit t whole) (items : List Item) (record reset : Bool) :
    Lags limit (t.replace items record reset) (whole.replace items record reset) := by
  have hchanges : whole.Changes items ↔ t.Changes items := by
    rw [Changes, Changes, h.entries, h.nextStamp]
  refine ⟨?_, ?_, ?_, ?_, ?_, ?_⟩
  · simp only [replace_entries, hchanges, h.entries, h.nextStamp]
  · rw [replace_nextStamp, replace_nextStamp, h.nextStamp]
  · rw [replace_history, replace_history, h.limited, h.unlimited, h.entries]
    simp only [hchanges]
    split
    · exact List.prefix_refl _
    · split
      · exact (List.take_prefix limit _).trans ((List.prefix_cons_inj _).2 h.history)
      · exact h.history
  · rw [replace_history, h.limited]
    split
    · exact Nat.zero_le _
    · split
      · exact List.length_take_le limit _
      · exact h.length
  · rw [replace_limit, h.limited]
  · rw [replace_limit, h.unlimited]

/-- One step goes the same way in both, unless only the one with more history can go back. -/
theorem act (h : Lags limit t whole) (a : Action)
    (hback : ¬ ((t.act a).2 = .undone false ∧ (whole.act a).2 = .undone true)) :
    Lags limit (t.act a).1 (whole.act a).1 ∧ (t.act a).2 = (whole.act a).2 := by
  by_cases ha : a = .undo
  · subst ha
    have hprefix := h.history
    cases ht : t.history with
    | nil =>
      cases hw : whole.history with
      | nil =>
        rw [act_undo_nil ht, act_undo_nil hw]
        exact ⟨h, rfl⟩
      | cons es older =>
        rw [act_undo_nil ht, act_undo_cons hw] at hback
        exact absurd ⟨rfl, rfl⟩ hback
    | cons es older =>
      rw [ht] at hprefix
      obtain ⟨rest, hw⟩ := hprefix
      have hlength := h.length
      rw [ht] at hlength
      rw [act_undo_cons ht, act_undo_cons hw.symm]
      refine ⟨?_, rfl⟩
      exact ⟨rfl, h.nextStamp, ⟨rest, rfl⟩, Nat.le_of_succ_le hlength, h.limited, h.unlimited⟩
  · rcases act_forward ha t.entries with ⟨e, hact⟩ | ⟨items, hact⟩
    · rw [hact t rfl, hact whole h.entries.symm]
      exact ⟨h, rfl⟩
    · rw [hact t rfl, hact whole h.entries.symm]
      exact ⟨h.replace items _ _, rfl⟩

theorem run (h : Lags limit t whole) (actions : List Action)
    (hback : (.undone false, .undone true) ∉ (t.run actions).2.zip (whole.run actions).2) :
    Lags limit (t.run actions).1 (whole.run actions).1 ∧
      (t.run actions).2 = (whole.run actions).2 := by
  induction actions generalizing t whole with
  | nil => exact ⟨h, rfl⟩
  | cons a actions ih =>
    rw [run_cons, run_cons, List.zip_cons_cons, List.mem_cons, not_or, Prod.mk.injEq] at hback
    obtain ⟨hstep, hanswer⟩ := h.act a fun hb => hback.1 ⟨hb.1.symm, hb.2.symm⟩
    obtain ⟨hrun, hanswers⟩ := ih hstep hback.2
    rw [run_cons, run_cons]
    exact ⟨hrun, by rw [hanswer, hanswers]⟩

end Lags

/-! ## What is recorded -/

/-- The state that an action records: the one before its change, if it makes one. -/
def recordedBy (t : Template) (a : Action) : List (List Entry) :=
  if a.records ∧ stamps (t.act a).1.entries ≠ stamps t.entries then [t.entries] else []

/-- The states that a run records, the latest first. -/
def recorded (t : Template) : List Action → List (List Entry)
  | [] => []
  | a :: actions => (t.act a).1.recorded actions ++ t.recordedBy a

theorem keepLatest_append (limit : Option Nat) (xs ys : List (List Entry)) :
    keepLatest limit (xs ++ keepLatest limit ys) = keepLatest limit (xs ++ ys) := by
  cases limit with
  | none => rfl
  | some n =>
    simp only [keepLatest, List.take_append, List.take_take]
    congr 2
    omega

theorem act_limit (t : Template) (a : Action) : (t.act a).1.limit = t.limit := by
  by_cases ha : a = .undo
  · subst ha
    cases h : t.history with
    | nil => rw [act_undo_nil h]
    | cons es older => rw [act_undo_cons h]
  · rcases act_forward ha t.entries with ⟨e, hact⟩ | ⟨items, hact⟩
    · rw [hact t rfl]
    · rw [hact t rfl, replace_limit]

theorem changes_iff (t : Template) (items : List Item) (record reset : Bool) :
    stamps (t.replace items record reset).entries ≠ stamps t.entries ↔ t.Changes items := by
  rw [replace_entries]
  split
  · rename_i hc
    exact iff_of_true hc hc
  · rename_i hc
    exact iff_of_false (fun h => h rfl) hc

/-- What an action records is put before the history. -/
theorem act_history {t : Template} {a : Action} (ha : a.advances = true)
    (hkept : keepLatest t.limit t.history = t.history) :
    (t.act a).1.history = keepLatest t.limit (t.recordedBy a ++ t.history) := by
  have hundo : a ≠ .undo := by
    rintro rfl
    cases ha
  have hreset : a.resets = false := by
    cases a with
    | replace items record reset => simpa [Action.advances] using ha
    | add | wrap | undo => rfl
  rcases act_forward hundo t.entries with ⟨e, hact⟩ | ⟨items, hact⟩
  · have hnone : t.recordedBy a = [] := if_neg fun h => h.2 (by rw [hact t rfl])
    rw [hact t rfl, hnone, List.nil_append, hkept]
  · have hiff := t.changes_iff items a.records a.resets
    rw [recordedBy, hact t rfl, replace_history, hreset, if_neg Bool.false_ne_true]
    rw [hreset] at hiff
    simp only [hiff]
    split
    · rfl
    · exact hkept.symm

theorem run_history {t : Template} {actions : List Action}
    (ha : ∀ a ∈ actions, a.advances = true)
    (hkept : keepLatest t.limit t.history = t.history) :
    (t.run actions).1.history = keepLatest t.limit (t.recorded actions ++ t.history) := by
  induction actions generalizing t with
  | nil => exact hkept.symm
  | cons a actions ih =>
    obtain ⟨ha, hactions⟩ := List.forall_mem_cons.1 ha
    have hstep := act_history ha hkept
    have hlimit := act_limit t a
    rw [run_cons, recorded, ih hactions, hstep, hlimit, keepLatest_append, List.append_assoc]
    rw [hstep, hlimit]
    exact keepLatest_append t.limit [] _

/-- **A limit forgets old states and changes nothing else.** As long as no undo fails with a limit
and succeeds without, both templates have the same entries and give the same answers, and the
limited history is what the other one recorded last. Whatever is refused changes nothing. Of the
states that are recorded after an empty history as many undos in a row succeed as the limit allows
for, and they bring back the latest first. -/
theorem undo_limited (limit : Nat) :
    (∀ actions : List Action,
      let t := (empty (some limit)).run actions
      let whole := (empty none).run actions
      (.undone false, .undone true) ∉ t.2.zip whole.2 →
        t.1.entries = whole.1.entries ∧ t.2 = whole.2 ∧
          t.1.history <+: whole.1.history ∧ t.1.history.length ≤ limit) ∧
    (∀ (t : Template) (a : Action) (e : WrapError),
      (t.act a).2 = .refused e → (t.act a).1 = t) ∧
    ∀ (t : Template) (actions : List Action), t.limit = some limit → t.history = [] →
      (∀ a ∈ actions, a.advances = true) →
        let states := t.recorded actions
        let count := min states.length limit
        let t' := (t.run actions).1
        (∀ m, (t'.run (List.replicate m .undo)).2 =
          List.replicate (min m count) (.undone true) ++
            List.replicate (m - count) (.undone false)) ∧
        ∀ m ≤ count, (t'.entries :: states)[m]? =
          some (t'.run (List.replicate m .undo)).1.entries := by
  refine ⟨?_, fun t a e => act_refused, ?_⟩
  · intro actions t whole hback
    obtain ⟨hlags, hanswers⟩ := (lags_empty limit).run actions hback
    exact ⟨hlags.entries, hanswers, hlags.history, hlags.length⟩
  · intro t actions hlimit hempty ha states count t'
    have hhistory : t'.history = states.take limit := by
      have h := run_history (t := t) ha (by rw [hempty, hlimit]; exact List.take_nil)
      rw [hempty, List.append_nil, hlimit] at h
      exact h
    have hlength : t'.history.length = count := by
      rw [hhistory, List.length_take, Nat.min_comm]
    refine ⟨fun m => ?_, fun m hm => ?_⟩
    · rw [run_undo, hlength]
    · rw [← run_undo_entries t' (by rw [hlength]; exact hm), snapshots, hhistory]
      cases m with
      | zero => rfl
      | succ m =>
        have hlt : m < limit := by omega
        rw [List.getElem?_cons_succ, List.getElem?_cons_succ, List.getElem?_take_of_lt hlt]

/-- Three changes with room for one, a wrap with a place that is no number, and an undo. -/
theorem undo_limited_one :
    let changes : List Action :=
      [.add (.literal ['a']), .add (.slot ['b']), .wrap (.int 0) (.int 1)]
    let actions := changes ++ [.wrap (.int 0) (.bool true), .undo]
    let t := (empty (some 1)).run actions
    let whole := (empty none).run actions
    ((.undone false, .undone true) ∉ t.2.zip whole.2 ∧ t.1.entries = whole.1.entries ∧
      t.2 = whole.2 ∧ t.2 = [.done, .done, .done, .refused (.notInteger .last), .undone true] ∧
      t.1.history.length = 0 ∧ whole.1.history.length = 2) ∧
    (∀ a ∈ changes, a.advances = true) ∧ ((empty (some 1)).recorded changes).length = 3 ∧
      (((empty (some 1)).run changes).1.run (List.replicate 2 .undo)).2 =
        [.undone true, .undone false] := by
  intro changes actions t whole
  obtain ⟨hlags, -, hcount⟩ := undo_limited 1
  have hback : (.undone false, .undone true) ∉ t.2.zip whole.2 := by decide +kernel
  obtain ⟨hentries, hanswers, -, -⟩ := hlags actions hback
  have ha : ∀ a ∈ changes, a.advances = true := by
    simp only [changes, List.forall_mem_cons]
    exact ⟨rfl, rfl, rfl, fun _ h => nomatch h⟩
  obtain ⟨hundo, -⟩ := hcount (empty (some 1)) changes rfl rfl ha
  have hstates : ((empty (some 1)).recorded changes).length = 3 := by decide +kernel
  refine ⟨⟨hback, hentries, hanswers, by decide +kernel, by decide +kernel, by decide +kernel⟩, ha,
    hstates, (hundo 2).trans ?_⟩
  rw [hstates]
  rfl

end CitationStudio.Template
