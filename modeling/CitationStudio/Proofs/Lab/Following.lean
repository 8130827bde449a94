import CitationStudio.Lab.Follower

/-! # A lab that follows a feed

What a lab holds after a list of notices is what the last of them said: its arguments are the
names that are not blank, stripped, and its template is the one that was sent. The mask depends
on what came before, the rest of the lab does not change. So a lab that listens is up to date
after every `publish`, however many turns it has. -/

namespace CitationStudio.Lab

def arguments (names : List Text) : List Text :=
  (names.filter fun n => !n.isBlank).map Text.strip

theorem renderer_follow (l : Lab) (n : Notice) : (l.follow n).renderer = l.renderer := rfl

theorem arguments_length_iff {names : List Text} :
    (arguments names).length = names.length ↔ ∀ n ∈ names, n.isBlank = false := by
  rw [arguments, List.length_map, List.length_filter_eq_length_iff]
  simp

theorem arguments_eq_map {names : List Text} (h : ∀ n ∈ names, n.isBlank = false) :
    arguments names = names.map Text.strip := by
  rw [arguments, List.filter_eq_self.2]
  intro n hn
  rw [h n hn]
  rfl

/-- A lab holds the arguments of these names, and this template. -/
structure Holds (l : Lab) (names : List Text) (template : Text) : Prop where
  names : l.names = arguments names
  template : l.template = template

theorem follow_holds (l : Lab) (n : Notice) : (l.follow n).Holds n.names n.template :=
  ⟨rfl, rfl⟩

/-- Notices that all say the same leave a lab that holds it, if there are any or it held it
before. -/
theorem foldl_follow_holds {names : List Text} {template : Text} {ns : List Notice}
    (hs : ∀ n ∈ ns, n.names = names ∧ n.template = template) {l : Lab}
    (h : ns ≠ [] ∨ l.Holds names template) : (ns.foldl follow l).Holds names template := by
  induction ns generalizing l with
  | nil => exact h.resolve_left fun hne => hne rfl
  | cons n ns ih =>
    obtain ⟨hn, ht⟩ := hs n (List.mem_cons_self ..)
    refine ih (fun m hm => hs m (List.mem_cons_of_mem _ hm)) (.inr ?_)
    rw [← hn, ← ht]
    exact follow_holds l n

theorem renderer_foldl_follow (ns : List Notice) (l : Lab) :
    (ns.foldl follow l).renderer = l.renderer := by
  induction ns generalizing l with
  | nil => rfl
  | cons n ns ih => exact (ih (l.follow n)).trans (renderer_follow l n)

@[simp] theorem renderer_catchUp (l : Lab) (feed : Feed) (seen : Nat) :
    (l.catchUp feed seen).renderer = l.renderer := renderer_foldl_follow _ l

theorem catchUp_delivered (l : Lab) (feed : Feed) :
    l.catchUp feed feed.delivered.length = l := by
  simp [catchUp, Feed.since]

/-- **A lab that listens is up to date** after every publication. -/
theorem catchUp_publish_holds (l : Lab) {feed : Feed} (h : listenerName ∈ feed.turns)
    (names : List Text) (template : Text) :
    (l.catchUp (feed.publish names template) feed.delivered.length).Holds names template := by
  have hsince : (feed.publish names template).since feed.delivered.length =
      feed.turns.map fun who => ⟨who, names, template⟩ := by
    simp [Feed.since, Feed.publish]
  rw [catchUp, hsince]
  refine foldl_follow_holds (fun n hn => ?_) (.inl ?_)
  · obtain ⟨who, -, rfl⟩ := List.mem_map.1 (List.mem_filter.1 hn).1
    exact ⟨rfl, rfl⟩
  · refine List.ne_nil_of_mem (a := ⟨listenerName, names, template⟩) ?_
    exact List.mem_filter.2 ⟨List.mem_map.2 ⟨_, h, rfl⟩, decide_eq_true rfl⟩

/-- Whoever begins to listen is told what the feed has. -/
theorem attach_lab (l : Lab) (feed : Feed) :
    (Follower.attach l feed).lab = l.follow (feed.notice listenerName) := by
  simp [Follower.attach, catchUp, Feed.since, Feed.subscribe, Feed.notice]

end CitationStudio.Lab
