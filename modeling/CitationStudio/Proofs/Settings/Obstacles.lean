import CitationStudio.Proofs.Json.Writable
import CitationStudio.Proofs.Settings.Layers

/-! # What stands in the way at an entry

An entry stops a layer where an infinite number stands for a whole one, and where its value has to
be written, as a text or in a warning, but cannot be. Neither depends on the settings so far. So
each layer has a first obstacle of its own, or none, and stops at that one. -/

namespace CitationStudio

def Value.isInfinite : Value → Bool
  | .float (.infinite _) => true
  | _ => false

theorem Value.whole?_eq_error {v : Value} {e : Obstacle} (h : v.whole? = .error e) :
    v.isInfinite = true ∧ e = .infinite := by
  cases v with
  | float x =>
    cases x <;> cases h
    exact ⟨rfl, rfl⟩
  | _ => cases h

theorem Value.not_isInfinite {v : Value} {n : Option Int} (h : v.whole? = .ok n) :
    v.isInfinite = false := by
  cases v with
  | float x => cases x <;> first | rfl | cases h
  | _ => rfl

theorem Value.writing?_of_writable {v : Value} (hv : v.isWritable = true) (reached : Bool) :
    v.writing? reached = if reached then none else some .exhausted := by
  cases reached <;> simp [writing?, hv]

namespace Settings

variable {stack : Stack}

/-- Is a whole number due for a key? -/
def Key.isCount : Key → Bool
  | .historyLimit | .maxCombinations | .sampleBudget | .sampleSeed => true
  | .overflow | .renderer => false

/-- What a value for a key puts in the way: it is infinite where it has to be whole, or it has to be
written, as a text or in a warning, and cannot be. -/
def Key.obstacle? (stack : Stack) (k : Key) (v : Value) : Option Obstacle :=
  if k.isCount then
    if v.isInfinite then some .infinite
    else if k.accepts v then none
    else v.writing? (stack.warning v)
  else v.writing? (stack.text v)

/-- The first obstacle among the entries of a layer for the known keys. -/
def obstacle? (stack : Stack) (layer : Layer) : Option Obstacle :=
  Key.all.findSome? fun k => (Value.lookup? k.name layer).bind (k.obstacle? stack)

theorem warned_error_iff {v : Value} {w : Warning} {e : Obstacle} :
    warned stack v w = .error e ↔ v.writing? (stack.warning v) = some e := by
  unfold warned
  split <;> rename_i hw <;> rw [hw] <;> simp

theorem count_error_iff {name : Text} {v : Value} {e : Obstacle} :
    count stack name v = .error e ↔
      (if v.isInfinite then some .infinite
        else if v.count?.isSome then none else v.writing? (stack.warning v)) = some e := by
  rw [count, Value.count?]
  cases hw : v.whole? with
  | error e' =>
    obtain ⟨hinfinite, rfl⟩ := Value.whole?_eq_error hw
    rw [hinfinite]
    exact ⟨fun h => congrArg some (Except.error.inj h), fun h => congrArg _ (Option.some.inj h)⟩
  | ok n =>
    rw [Value.not_isInfinite hw]
    cases n with
    | none => exact warned_error_iff
    | some n =>
      by_cases hn : 0 ≤ n
      · simp [hn]
      · simpa [hn] using warned_error_iff

namespace Report

theorem setCount_error_iff (r : Report) {name : Text} {v : Value} (set : Nat → Settings)
    {e : Obstacle} : r.setCount stack name v set = .error e ↔ count stack name v = .error e := by
  unfold setCount
  split <;> rename_i hc <;> rw [hc] <;> simp

/-- Whether an entry stops a report does not depend on the report. -/
theorem enter_error_iff (r : Report) {k : Key} {v : Value} {e : Obstacle} :
    r.enter stack k v = .error e ↔ k.obstacle? stack v = some e := by
  cases k with
  | historyLimit | maxCombinations | sampleBudget =>
    exact (setCount_error_iff r _).trans count_error_iff
  | overflow =>
    simp only [enter, Key.obstacle?, Key.isCount, Bool.false_eq_true, if_false]
    cases v.writing? (stack.text v) with
    | some o => simp
    | none => cases Overflow.ofName? v.text <;> simp
  | sampleSeed =>
    simp only [enter]
    split
    · exact iff_of_false (by simp) (fun h => by cases h)
    · rename_i hv
      have haccepts : Key.sampleSeed.accepts v = v.count?.isSome := by
        rw [Key.accepts, Value.seed?_of_ne_null hv, Option.isSome_map]
      rw [Key.obstacle?, haccepts]
      exact (setCount_error_iff _ _).trans count_error_iff
  | renderer =>
    simp only [enter, Key.obstacle?, Key.isCount, Bool.false_eq_true, if_false]
    cases v.writing? (stack.text v) <;> simp

theorem foldl_step_obstacle (layer : Layer) (ks : List Key) (r : Report) :
    (ks.foldl (step stack layer) (r, none)).2 =
      ks.findSome? fun k => (Value.lookup? k.name layer).bind (k.obstacle? stack) := by
  induction ks generalizing r with
  | nil => rfl
  | cons k ks ih =>
    rw [List.foldl_cons, List.findSome?_cons]
    cases hv : Value.lookup? k.name layer with
    | none => rw [step_none hv, ih, Option.bind_none]
    | some v =>
      rw [Option.bind_some]
      cases he : r.enter stack k v with
      | ok r' =>
        have hnone : k.obstacle? stack v = none :=
          Option.eq_none_iff_forall_ne_some.2 fun e ho => by
            cases he.symm.trans ((enter_error_iff r).2 ho)
        rw [step_ok hv he, ih, hnone]
      | error e =>
        rw [step_error hv he, foldl_step_stopped, (enter_error_iff r).1 he]

theorem addLayer_obstacle (r : Report) (layer : Layer) :
    (addLayer stack (r, none) layer).2 = obstacle? stack layer :=
  foldl_step_obstacle layer Key.all r

end Report

/-! ## Of what can be written -/

/-- Can loading get past a value for a key? A whole number must not be infinite, a value that is
passed over is shown in a warning, and any other value is made a text. -/
def Key.takes (stack : Stack) (k : Key) (v : Value) : Bool :=
  if k.isCount then !v.isInfinite && (k.accepts v || stack.warning v) else stack.text v

/-- Can loading get past what a layer has for the known keys? -/
def passes (stack : Stack) (layer : Layer) : Bool :=
  Key.all.all fun k => (Value.lookup? k.name layer).all (k.takes stack)

theorem Key.obstacle?_of_writable (stack : Stack) (k : Key) {v : Value}
    (hv : v.isWritable = true) :
    (k.obstacle? stack v = none ↔ k.takes stack v = true) ∧
      k.obstacle? stack v ≠ some .unwritable := by
  rw [obstacle?, takes, Value.writing?_of_writable hv, Value.writing?_of_writable hv]
  cases k.isCount
  · cases stack.text v <;> simp
  · cases v.isInfinite <;> cases k.accepts v <;> cases stack.warning v <;> simp

/-- Of what can be written, only what is infinite or reaches beyond the stack is in the way. -/
theorem obstacle?_of_writable (stack : Stack) {layer : Layer}
    (h : Value.entriesWritable layer = true) :
    (obstacle? stack layer = none ↔ passes stack layer = true) ∧
      obstacle? stack layer ≠ some .unwritable := by
  have hentry (k : Key) {v : Value} (hv : Value.lookup? k.name layer = some v) :=
    k.obstacle?_of_writable stack (Value.isWritable_lookup? h hv)
  constructor
  · rw [obstacle?, passes, List.findSome?_eq_none_iff, List.all_eq_true]
    refine forall₂_congr fun k _ => ?_
    cases hv : Value.lookup? k.name layer with
    | none => simp
    | some v => simpa using (hentry k hv).1
  · intro ho
    obtain ⟨k, -, hk⟩ := List.exists_of_findSome?_eq_some ho
    obtain ⟨v, hv, hobstacle⟩ := Option.bind_eq_some_iff.1 hk
    exact (hentry k hv).2 hobstacle

end Settings

end CitationStudio
