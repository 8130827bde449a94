import CitationStudio.Feed

/-! # Turns and subscriptions

A feed keeps the turns of its listeners, not its subscriptions: ending a subscription takes away
the first turn that its listener has left, whichever subscription it came from. So the turns are
those of the open subscriptions only as long as the two do not fall apart. The roll of open
subscriptions is kept beside the feed, and one step shows when they do: the end of a subscription
must meet a listener with none open, or pass over no other listener's turn. -/

namespace CitationStudio

inductive Feed.Action where
  | publish (names : List Text) (template : Text)
  | subscribe (listener : Text) (replay : Bool)
  | unsubscribe (number : Nat)

def Feed.act (f : Feed) : Feed.Action → Feed
  | .publish names template => f.publish names template
  | .subscribe listener replay => f.subscribe listener replay
  | .unsubscribe number => f.unsubscribe number

/-- A feed with the numbers of its open subscriptions: those that were made and that nobody has
ended since. -/
structure Roll where
  feed : Feed
  opened : List Nat

namespace Roll

def empty : Roll := ⟨.empty, []⟩

def act (r : Roll) (a : Feed.Action) : Roll where
  feed := r.feed.act a
  opened := match a with
    | .publish _ _ => r.opened
    | .subscribe _ _ => r.opened ++ [r.feed.subscriptions.length]
    | .unsubscribe number => r.opened.erase number

def run (r : Roll) (actions : List Feed.Action) : Roll := actions.foldl act r

def listener (r : Roll) (number : Nat) : Text := r.feed.subscriptions[number]?.getD []

/-- The listeners of the open subscriptions, in the order in which they subscribed. -/
def listeners (r : Roll) : List Text := r.opened.map r.listener

/-- A subscription may be ended without harm: its listener has none that is open, or it is open
itself, and from the first open one of its listener up to it no other listener has an open one. -/
def Due (r : Roll) (number : Nat) : Prop :=
  (∀ m ∈ r.opened, r.listener m ≠ r.listener number) ∨
    number ∈ r.opened ∧ ∀ m ∈ r.opened, ∀ k ∈ r.opened, m ≤ k → k ≤ number →
      r.listener m = r.listener number → r.listener k = r.listener number

/-- The open subscriptions have numbers that were given out, in ascending order. -/
structure Numbered (r : Roll) : Prop where
  ascending : r.opened.Pairwise (· < ·)
  given : ∀ n ∈ r.opened, n < r.feed.subscriptions.length

theorem numbered_empty : empty.Numbered := ⟨List.Pairwise.nil, fun _ hn => nomatch hn⟩

theorem Numbered.act {r : Roll} (h : r.Numbered) (a : Feed.Action) : (r.act a).Numbered := by
  cases a with
  | publish names template => exact ⟨h.ascending, h.given⟩
  | subscribe who replay =>
    constructor
    · refine List.pairwise_append.2 ⟨h.ascending, List.pairwise_singleton _ _, ?_⟩
      intro n hn m hm
      rw [List.mem_singleton.1 hm]
      exact h.given n hn
    · intro n hn
      have hlength : (r.act (.subscribe who replay)).feed.subscriptions.length =
          r.feed.subscriptions.length + 1 := List.length_append
      rw [hlength]
      rcases List.mem_append.1 hn with hn | hn
      · exact Nat.lt_succ_of_lt (h.given n hn)
      · rw [List.mem_singleton.1 hn]
        exact Nat.lt_succ_self _
  | unsubscribe number =>
    have hsame : (r.act (.unsubscribe number)).feed.subscriptions = r.feed.subscriptions := by
      show (r.feed.unsubscribe number).subscriptions = _
      unfold Feed.unsubscribe
      split <;> rfl
    refine ⟨h.ascending.sublist List.erase_sublist, fun n hn => ?_⟩
    rw [hsame]
    exact h.given n (List.mem_of_mem_erase hn)

/-- Every open subscription has its turn, in order, and there is no other turn. -/
def Aligned (r : Roll) : Prop := r.feed.turns = r.listeners

/-! ## Taking the first turn of a listener -/

section Erase

variable {who : Nat → Text} {ns : List Nat} {n : Nat}

/-- The list without one of its members, with that member's image in front instead: the images
move up by one place, which shows unless they are all the same. -/
theorem cons_map_erase_iff (hs : ns.Pairwise (· < ·)) (hn : n ∈ ns) :
    who n :: (ns.erase n).map who = ns.map who ↔ ∀ k ∈ ns, k ≤ n → who k = who n := by
  induction ns with
  | nil => exact nomatch hn
  | cons a ns ih =>
    obtain ⟨ha, hs⟩ := List.pairwise_cons.1 hs
    by_cases he : a = n
    · subst he
      rw [List.erase_cons_head, List.map_cons]
      refine iff_of_true rfl fun k hk hle => ?_
      rcases List.mem_cons.1 hk with rfl | hk
      · rfl
      · exact absurd (ha k hk) (Nat.not_lt.2 hle)
    · have hmem : n ∈ ns := (List.mem_cons.1 hn).resolve_left fun h => he h.symm
      rw [List.erase_cons_tail (by simpa using he), List.map_cons, List.map_cons, List.cons.injEq]
      constructor
      · rintro ⟨heq, htail⟩ k hk hle
        rw [← heq] at htail
        rcases List.mem_cons.1 hk with rfl | hk
        · exact heq.symm
        · exact (ih hs hmem).1 htail k hk hle
      · intro hall
        have heq : who n = who a := (hall a (List.mem_cons_self ..) (Nat.le_of_lt (ha n hmem))).symm
        refine ⟨heq, ?_⟩
        rw [← heq]
        exact (ih hs hmem).2 fun k hk hle => hall k (List.mem_cons_of_mem a hk) hle

/-- Taking a member out, or the first member with the same image, leaves the same images exactly
if no member in between has another image. -/
theorem map_erase_iff (hs : ns.Pairwise (· < ·)) (hn : n ∈ ns) :
    (ns.map who).erase (who n) = (ns.erase n).map who ↔
      ∀ m ∈ ns, ∀ k ∈ ns, m ≤ k → k ≤ n → who m = who n → who k = who n := by
  induction ns with
  | nil => exact nomatch hn
  | cons a ns ih =>
    obtain ⟨ha, hs'⟩ := List.pairwise_cons.1 hs
    by_cases he : a = n
    · subst he
      rw [List.map_cons, List.erase_cons_head, List.erase_cons_head]
      refine iff_of_true rfl fun m _ k hk _ hle _ => ?_
      rcases List.mem_cons.1 hk with rfl | hk
      · rfl
      · exact absurd (ha k hk) (Nat.not_lt.2 hle)
    · have hmem : n ∈ ns := (List.mem_cons.1 hn).resolve_left fun h => he h.symm
      rw [List.erase_cons_tail (by simpa using he), List.map_cons, List.map_cons]
      by_cases hw : who a = who n
      · -- the first turn of the listener is the head's
        rw [hw, List.erase_cons_head, eq_comm, cons_map_erase_iff hs' hmem]
        constructor
        · intro hall m _ k hk _ hle _
          rcases List.mem_cons.1 hk with rfl | hk
          · exact hw
          · exact hall k hk hle
        · intro hall k hk hle
          exact hall a (List.mem_cons_self ..) k (List.mem_cons_of_mem a hk)
            (Nat.le_of_lt (ha k hk)) hle hw
      · rw [List.erase_cons_tail (by simpa using hw), List.cons.injEq, and_iff_right rfl,
          ih hs' hmem]
        constructor
        · intro hall m hm k hk hmk hle heq
          rcases List.mem_cons.1 hm with rfl | hm'
          · exact absurd heq hw
          · rcases List.mem_cons.1 hk with rfl | hk'
            · exact absurd (ha m hm') (Nat.not_lt.2 hmk)
            · exact hall m hm' k hk' hmk hle heq
        · intro hall m hm k hk
          exact hall m (List.mem_cons_of_mem a hm) k (List.mem_cons_of_mem a hk)

end Erase

/-! ## Along a run -/

/-- Taking the first turn of a listener is right exactly if the subscription was due. -/
theorem erase_listeners_iff {r : Roll} (h : r.Numbered) (n : Nat) :
    r.listeners.erase (r.listener n) = (r.opened.erase n).map r.listener ↔ r.Due n := by
  by_cases hn : n ∈ r.opened
  · have hopen : ¬ ∀ m ∈ r.opened, r.listener m ≠ r.listener n := fun hne => hne n hn rfl
    rw [listeners, map_erase_iff h.ascending hn, Due, or_iff_right hopen, and_iff_right hn]
  · rw [List.erase_of_not_mem hn, Due, or_iff_left fun hd => hn hd.1]
    show r.listeners.erase (r.listener n) = r.listeners ↔ _
    rw [List.erase_eq_self_iff, listeners, List.mem_map]
    constructor
    · intro hnot m hm heq
      exact hnot ⟨m, hm, heq⟩
    · rintro hne ⟨m, hm, heq⟩
      exact hne m hm heq

/-- A step keeps the turns aligned unless it ends a subscription that is not due. -/
theorem act_aligned_iff {r : Roll} (h : r.Numbered) (ha : r.Aligned) (a : Feed.Action) :
    (r.act a).Aligned ↔
      ∀ n, a = .unsubscribe n → n < r.feed.subscriptions.length → r.Due n := by
  cases a with
  | publish names template => exact iff_of_true ha fun n hn => nomatch hn
  | subscribe who replay =>
    refine iff_of_true ?_ fun n hn => nomatch hn
    have hold : ∀ n ∈ r.opened, (r.act (.subscribe who replay)).listener n = r.listener n := by
      intro n hn
      show ((r.feed.subscriptions ++ [who])[n]?).getD [] = _
      rw [List.getElem?_append_left (h.given n hn), listener]
    have hnew : (r.act (.subscribe who replay)).listener r.feed.subscriptions.length = who := by
      show ((r.feed.subscriptions ++ [who])[r.feed.subscriptions.length]?).getD [] = _
      rw [List.getElem?_concat_length, Option.getD_some]
    show r.feed.turns ++ [who] = (r.opened ++ [r.feed.subscriptions.length]).map _
    rw [List.map_append, List.map_congr_left hold, List.map_singleton, hnew, ha, listeners]
  | unsubscribe n =>
    have hothers : (r.act (.unsubscribe n)).listeners = (r.opened.erase n).map r.listener := by
      show (r.opened.erase n).map (Roll.listener ⟨r.feed.unsubscribe n, _⟩) = _
      unfold Feed.unsubscribe
      split <;> rfl
    rw [Aligned, hothers]
    show (r.feed.unsubscribe n).turns = _ ↔ _
    by_cases hn : n < r.feed.subscriptions.length
    · have hwho : r.feed.subscriptions[n]? = some (r.listener n) := by
        rw [listener, List.getElem?_eq_getElem hn, Option.getD_some]
      rw [Feed.unsubscribe, hwho]
      show r.feed.turns.erase (r.listener n) = _ ↔ _
      rw [ha, erase_listeners_iff h]
      exact ⟨fun hd m hm _ => Feed.Action.unsubscribe.inj hm ▸ hd, fun hd => hd n rfl hn⟩
    · -- nobody has been given this number yet
      have hnone : r.feed.subscriptions[n]? = none := List.getElem?_eq_none (Nat.not_lt.1 hn)
      rw [Feed.unsubscribe, hnone, List.erase_of_not_mem fun hmem => hn (h.given n hmem)]
      exact iff_of_true ha fun m hm hlt => absurd (Feed.Action.unsubscribe.inj hm ▸ hlt) hn

/-- The turns are aligned all along a run exactly if whatever is ended is due. -/
theorem run_aligned_iff (actions : List Feed.Action) {r : Roll} (h : r.Numbered)
    (ha : r.Aligned) :
    (∀ i, (r.run (actions.take i)).Aligned) ↔
      ∀ i n, actions[i]? = some (.unsubscribe n) →
        n < (r.run (actions.take i)).feed.subscriptions.length →
        (r.run (actions.take i)).Due n := by
  induction actions generalizing r with
  | nil =>
    refine iff_of_true (fun i => ?_) fun i n hi => nomatch hi
    rw [List.take_nil]
    exact ha
  | cons a actions ih =>
    have hstep := act_aligned_iff h ha a
    constructor
    · intro hall i n hi
      have hnext : (r.act a).Aligned := hall 1
      cases i with
      | zero => exact hstep.1 hnext n (Option.some.inj hi)
      | succ i => exact (ih (h.act a) hnext).1 (fun i => hall (i + 1)) i n hi
    · intro hdue i
      have hnext : (r.act a).Aligned := hstep.2 fun n hn => hdue 0 n (congrArg some hn)
      cases i with
      | zero => exact ha
      | succ i => exact (ih (h.act a) hnext).2 (fun i n hi => hdue (i + 1) n hi) i

/-- No turn is made but by a subscription, and turns keep the order of the subscriptions. -/
theorem run_turns_sublist (actions : List Feed.Action) {r : Roll}
    (h : r.feed.turns.Sublist r.feed.subscriptions) :
    (r.run actions).feed.turns.Sublist (r.run actions).feed.subscriptions := by
  induction actions generalizing r with
  | nil => exact h
  | cons a actions ih =>
    refine ih ?_
    cases a with
    | publish names template => exact h
    | subscribe who replay => exact h.append (List.Sublist.refl [who])
    | unsubscribe n =>
      show (r.feed.unsubscribe n).turns.Sublist (r.feed.unsubscribe n).subscriptions
      unfold Feed.unsubscribe
      split
      · exact List.erase_sublist.trans h
      · exact h

def told (names : List Text) (template : Text) (listeners : List Text) : List Notice :=
  listeners.map fun who => ⟨who, names, template⟩

theorem told_inj {names : List Text} {template : Text} {ls ls' : List Text}
    (h : told names template ls = told names template ls') : ls = ls' := by
  have hmap := congrArg (List.map Notice.listener) h
  simpa [told, Function.comp_def] using hmap

/-- **Every publication reaches the open subscriptions**, as long as whatever is ended is due. In
any run it tells listeners in the order in which they subscribed, each at most once for each of its
subscriptions. It tells exactly those whose subscriptions are open, at every point of the run, if
and only if each subscription that is ended has a listener with no open one or passes over no turn
of another listener. -/
theorem run_notifies_iff (actions : List Feed.Action) :
    let after (i : Nat) : Roll := empty.run (actions.take i)
    (∀ i names template, ∃ ls, ls.Sublist (after i).feed.subscriptions ∧
      ((after i).feed.publish names template).delivered =
        (after i).feed.delivered ++ told names template ls) ∧
    ((∀ i names template, ((after i).feed.publish names template).delivered =
        (after i).feed.delivered ++ told names template (after i).listeners) ↔
      ∀ i n, actions[i]? = some (.unsubscribe n) →
        n < (after i).feed.subscriptions.length → (after i).Due n) := by
  intro after
  refine ⟨fun i names template => ⟨(after i).feed.turns, ?_, rfl⟩, ?_⟩
  · exact run_turns_sublist (actions.take i) (r := empty) (List.Sublist.refl [])
  · rw [← run_aligned_iff actions numbered_empty rfl]
    constructor
    · intro hall i
      exact told_inj (List.append_cancel_left (hall i [] []))
    · intro haligned i names template
      rw [← haligned i]
      rfl

/-- Whoever listens twice is told nothing any more once the first subscription has been ended
twice, although the second is open. -/
theorem not_run_notifies_opened :
    ¬ ∀ (actions : List Feed.Action) (names : List Text) (template : Text),
      let r := empty.run actions
      (r.feed.publish names template).delivered =
        r.feed.delivered ++ told names template r.listeners := by
  intro h
  have htwice := h [.subscribe ['a'] false, .subscribe ['a'] false, .unsubscribe 0,
    .unsubscribe 0] [] []
  exact absurd htwice (by decide)

end Roll

end CitationStudio
