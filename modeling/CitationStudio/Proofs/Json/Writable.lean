import CitationStudio.Data.Json.Reader

/-! # Numbers that are read can be written

A whole number in a JSON text has at most as many digits as may be written, since a longer one is
no value. So every lexeme that is a value can be written. Each step of the reader keeps this for the
lists and maps that are open, and with it for the value in the end. -/

namespace CitationStudio

namespace Value

theorem areWritable_iff {vs : List Value} :
    areWritable vs = true ↔ ∀ v ∈ vs, v.isWritable = true := by
  induction vs with
  | nil => simp [areWritable]
  | cons v vs ih => simp [areWritable, ih]

theorem entriesWritable_iff {es : List (Value × Value)} :
    entriesWritable es = true ↔ ∀ e ∈ es, e.1.isWritable = true ∧ e.2.isWritable = true := by
  induction es with
  | nil => simp [entriesWritable]
  | cons e es ih =>
    obtain ⟨k, v⟩ := e
    rw [List.forall_mem_cons, ← ih]
    simp [entriesWritable, entryWritable]

theorem entriesWritable_insertEntry {es : List (Value × Value)} {k v : Value}
    (hes : entriesWritable es = true) (hk : k.isWritable = true) (hv : v.isWritable = true) :
    entriesWritable (insertEntry es k v) = true := by
  induction es with
  | nil => simp [insertEntry, entriesWritable, entryWritable, hk, hv]
  | cons e es ih =>
    obtain ⟨k', v'⟩ := e
    obtain ⟨⟨hk', hv'⟩, hes⟩ : (k'.isWritable = true ∧ v'.isWritable = true) ∧
        entriesWritable es = true := by
      simpa [entriesWritable, entryWritable] using hes
    rw [insertEntry]
    split
    · simp [entriesWritable, entryWritable, hk', hv, hes]
    · simp [entriesWritable, entryWritable, hk', hv', ih hes]

theorem lookup?_mem {key : Text} {es : List (Value × Value)} {v : Value}
    (h : lookup? key es = some v) : (string key, v) ∈ es := by
  induction es with
  | nil => cases h
  | cons e es ih =>
    obtain ⟨k, w⟩ := e
    rw [lookup?.eq_def] at h
    dsimp only at h
    split at h
    · split at h
      · rename_i hkey
        cases h
        rw [hkey]
        exact List.mem_cons_self
      · exact List.mem_cons_of_mem _ (ih h)
    · exact List.mem_cons_of_mem _ (ih h)

theorem isWritable_lookup? {key : Text} {es : List (Value × Value)} {v : Value}
    (hes : entriesWritable es = true) (h : lookup? key es = some v) : v.isWritable = true :=
  (entriesWritable_iff.1 hes _ (lookup?_mem h)).2

theorem isWritable_ofRunes (rs : Runes) : (ofRunes rs).isWritable = true := by
  unfold ofRunes
  split <;> rfl

end Value

theorem Numeral.lt_pow_of_le {n j k : Nat} (hn : n < Nat.pow 10 j) (hjk : j ≤ k) :
    n < Nat.pow 10 k := Nat.lt_of_lt_of_le hn (Nat.pow_le_pow_right (by decide) hjk)

theorem Numeral.isWritable_of_lt {n : Int} {k : Nat} (hn : n.natAbs < Nat.pow 10 k)
    (hk : k ≤ digitLimit) : Numeral.isWritable n = true := by
  unfold isWritable writingLimit
  exact decide_eq_true (lt_pow_of_le hn hk)

namespace Json

/-! ## Numbers -/

theorem natOf_concat (ds : Text) (c : Char) :
    natOf (ds ++ [c]) = 10 * natOf ds + (c.toNat - 48) := by
  rw [natOf, List.foldl_append]
  rfl

theorem digit_le {c : Char} (h : c.isDigit = true) : c.toNat - 48 ≤ 9 := by
  simp only [Char.isDigit, Bool.and_eq_true, decide_eq_true_eq, ge_iff_le] at h
  have := UInt32.le_iff_toNat_le.1 h.2
  change c.toNat ≤ 57 at this
  omega

theorem natOf_lt (ds : Text) (h : ∀ c ∈ ds, c.isDigit = true) :
    natOf ds < Nat.pow 10 ds.length := by
  induction hn : ds.length generalizing ds with
  | zero =>
    obtain rfl := List.length_eq_zero_iff.1 hn
    decide
  | succ n ih =>
    rcases List.eq_nil_or_concat ds with rfl | ⟨ds, c, rfl⟩
    · cases hn
    · rw [List.concat_eq_append] at h hn ⊢
      rw [List.length_append, List.length_singleton, Nat.add_right_cancel_iff] at hn
      have hds := ih ds (fun d hd => h d (List.mem_append_left _ hd)) hn
      have hc := digit_le (h c (List.mem_append_right _ List.mem_cons_self))
      rw [natOf_concat]
      change _ < Nat.pow 10 n * 10
      omega

theorem digits?_whole {t : Text} {d : Digits} (h : digits? t = some d) :
    ∀ c ∈ d.whole, c.isDigit = true := by
  have hwhole : d.whole = ['0'] ∨ d.whole = t.takeWhile Char.isDigit := by
    unfold digits? at h
    dsimp only at h
    split at h <;> split at h
    · cases h
    · split at h <;> (cases h; exact .inl rfl)
    · cases h
    · split at h <;> (cases h; exact .inr rfl)
  rcases hwhole with hwhole | hwhole <;> rw [hwhole]
  · intro c hc
    rw [List.mem_singleton.1 hc]
    rfl
  · exact List.all_eq_true.1 List.all_takeWhile

/-- Can the value that a lexeme is be written, if it is one? -/
def Lexeme.isWritable : Lexeme → Bool
  | .atom v => v.isWritable
  | _ => true

theorem Digits.isWritable_lexeme {d : Digits} (h : ∀ c ∈ d.whole, c.isDigit = true)
    (negative : Bool) : (d.lexeme negative).isWritable = true := by
  unfold lexeme
  split
  · split
    · rfl
    · rename_i hlength
      have hlt := natOf_lt d.whole h
      rw [Lexeme.isWritable, Value.isWritable]
      refine Numeral.isWritable_of_lt ?_ (Nat.le_of_not_lt hlength)
      cases negative
      · exact hlt
      · rw [if_pos rfl, Int.natAbs_neg]
        exact hlt
  · rfl

theorem isWritable_of_mem_words : ∀ w ∈ words, w.2.isWritable = true := by decide

theorem next?_isWritable {t rest : Text} {l : Lexeme} (h : next? t = some (l, rest)) :
    l.isWritable = true := by
  cases t with
  | nil => cases h
  | cons c r =>
    simp only [next?] at h
    repeat' split at h
    all_goals try (cases h; rfl)
    -- texts, words and numbers of both signs are left
    · obtain ⟨_, -, he⟩ := Option.map_eq_some_iff.1 h
      cases he
      rfl
    · rename_i hfind
      cases h
      exact isWritable_of_mem_words _ (List.mem_of_find?_eq_some hfind)
    · obtain ⟨d, hd, he⟩ := Option.map_eq_some_iff.1 h
      cases he
      exact Digits.isWritable_lexeme (digits?_whole hd) true
    · obtain ⟨d, hd, he⟩ := Option.map_eq_some_iff.1 h
      cases he
      exact Digits.isWritable_lexeme (digits?_whole hd) false

theorem isWritable_of_mem_lexemesFrom {n : Nat} {t : Text} :
    ∀ l ∈ lexemesFrom n t, l.isWritable = true := by
  induction n generalizing t with
  | zero => exact fun l hl => absurd hl List.not_mem_nil
  | succ n ih =>
    rw [lexemesFrom]
    split
    · exact fun l hl => absurd hl List.not_mem_nil
    · split
      · rename_i hnext
        exact List.forall_mem_cons.2 ⟨next?_isWritable hnext, ih⟩
      · exact List.forall_mem_cons.2 ⟨rfl, fun l hl => absurd hl List.not_mem_nil⟩

/-! ## The reader -/

/-- Can all be written that is in an open list or map? -/
def Frame.isWritable : Frame → Bool
  | .items done => Value.areWritable done
  | .entries done k => Value.entriesWritable done && k.isWritable

/-- Can all be written that was read so far? -/
def State.isWritable : State → Bool
  | .value stack | .firstItem stack => stack.all Frame.isWritable
  | .key _ done stack => Value.entriesWritable done && stack.all Frame.isWritable
  | .colon k done stack =>
    k.isWritable && Value.entriesWritable done && stack.all Frame.isWritable
  | .ended v stack => v.isWritable && stack.all Frame.isWritable

theorem startValue_isWritable {limit : Nat} {stack : List Frame} {l : Lexeme} {s : State}
    (h : startValue limit stack l = .ok s) (hstack : stack.all Frame.isWritable = true)
    (hl : l.isWritable = true) : s.isWritable = true := by
  cases l with
  | openList =>
    rw [startValue] at h
    split at h <;> cases h
    exact hstack
  | openMap =>
    rw [startValue] at h
    split at h <;> cases h
    simp [State.isWritable, Value.entriesWritable, hstack]
  | text rs =>
    cases h
    simp [State.isWritable, Value.isWritable_ofRunes, hstack]
  | atom v =>
    cases h
    rw [State.isWritable, hstack, Bool.and_true]
    exact hl
  | _ => cases h

theorem afterValue_isWritable {v : Value} {stack : List Frame} {l : Lexeme} {s : State}
    (h : afterValue v stack l = .ok s) (hv : v.isWritable = true)
    (hstack : stack.all Frame.isWritable = true) : s.isWritable = true := by
  unfold afterValue at h
  split at h <;> cases h <;> rw [List.all_cons, Bool.and_eq_true] at hstack
  · rw [State.isWritable, List.all_cons, hstack.2, Bool.and_true, Frame.isWritable,
      Value.areWritable, hv, Bool.true_and]
    exact hstack.1
  · have hitems := Value.areWritable_iff.1 hstack.1
    rw [State.isWritable, hstack.2, Bool.and_true, Value.isWritable, Value.areWritable_iff]
    intro w hw
    rcases List.mem_cons.1 (List.mem_reverse.1 hw) with rfl | hw
    · exact hv
    · exact hitems w hw
  · obtain ⟨hdone, hkey⟩ := Bool.and_eq_true_iff.1 hstack.1
    rw [State.isWritable, Value.entriesWritable_insertEntry hdone hkey hv, hstack.2]
    rfl
  · obtain ⟨hdone, hkey⟩ := Bool.and_eq_true_iff.1 hstack.1
    rw [State.isWritable, Value.isWritable, hstack.2,
      Value.entriesWritable_insertEntry hdone hkey hv]
    rfl

/-- A step adds only what can be written. -/
theorem State.step_isWritable {limit : Nat} {s s' : State} {l : Lexeme}
    (h : s.step limit l = .ok s') (hs : s.isWritable = true) (hl : l.isWritable = true) :
    s'.isWritable = true := by
  unfold State.step at h
  split at h
  · exact startValue_isWritable h hs hl
  · cases h
    exact hs
  · exact startValue_isWritable h hs hl
  · cases h
    exact hs
  · cases h
    simpa [State.isWritable, Value.isWritable_ofRunes] using hs
  · cases h
    simpa [State.isWritable, Frame.isWritable, Bool.and_comm, and_assoc, and_left_comm] using hs
  · obtain ⟨hv, hstack⟩ := Bool.and_eq_true_iff.1 hs
    exact afterValue_isWritable h hv hstack
  · cases h

theorem State.run_isWritable {limit : Nat} {s : State} {ls : List Lexeme} {v : Value}
    (h : s.run limit ls = .ok v) (hs : s.isWritable = true)
    (hls : ∀ l ∈ ls, l.isWritable = true) : v.isWritable = true := by
  induction ls generalizing s with
  | nil =>
    unfold State.run at h
    split at h
    · cases h
      exact (Bool.and_eq_true_iff.1 hs).1
    · cases h
  | cons l ls ih =>
    obtain ⟨hl, hls⟩ := List.forall_mem_cons.1 hls
    unfold State.run at h
    split at h
    · rename_i hstep
      exact ih h (State.step_isWritable hstep hs hl) hls
    · cases h

/-- Whatever is read can be written. -/
theorem parse_isWritable {limit : Nat} {t : Text} {v : Value} (h : parse limit t = .ok v) :
    v.isWritable = true :=
  State.run_isWritable h rfl isWritable_of_mem_lexemesFrom

end Json

end CitationStudio
