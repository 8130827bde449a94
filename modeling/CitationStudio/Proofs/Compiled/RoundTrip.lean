import CitationStudio.Part.Escape
import CitationStudio.Proofs.Compiled.Printed

/-! # Reading a compiled template gives its parts back

The reader goes over the lexemes of a printed part and ends up where it was, with the part's
shape pushed (`run_printed`). The names come from outside: those of the template itself make the
parts it was compiled from, and other names, too few ones included, change the names and
nothing else. -/

namespace CitationStudio.Compiled

open Part (nameless namelessAll slotsAll solidAll compiledAll)

namespace Progress

/-- May a part come next? Inside a group it may not right after another one. -/
def Ready (s : Progress) : Prop := s.ended = false ∨ s.outer = []

theorem Ready.blocked {s : Progress} (h : s.Ready) : (s.ended && !s.outer.isEmpty) = false := by
  rcases h with h | h <;> simp [h]

/-! One lexeme at a time. -/

theorem step_part {s : Progress} (h : s.Ready) {pos : Nat} {l : Lexeme} {s' : Progress}
    (hl : s.step pos l = if (s.ended && !s.outer.isEmpty) = true
      then .error (.missingJoin, pos) else .ok s') : s.step pos l = .ok s' := by
  rw [hl, h.blocked, if_neg Bool.false_ne_true]

theorem step_literal {s : Progress} (h : s.Ready) (pos : Nat) (body : Text) :
    s.step pos (.literal body) = .ok (s.push (.literal (Part.unescape body))) :=
  step_part h rfl

theorem step_slot {s : Progress} (h : s.Ready) (pos : Nat) :
    s.step pos .slot = .ok (s.push (.slot [])) :=
  step_part h rfl

theorem step_opening {s : Progress} (h : s.Ready) (pos : Nat) :
    s.step pos .opening = .ok ⟨s.items :: s.outer, [], false⟩ :=
  step_part h rfl

theorem step_closing (before : List Part) (outer : List (List Part)) {items : List Part}
    (ended : Bool) (h : items ≠ []) (pos : Nat) :
    (⟨before :: outer, items, ended⟩ : Progress).step pos .closing =
      .ok ⟨outer, .group items.reverse :: before, true⟩ := by
  show (if items.isEmpty then _ else _) = _
  rw [if_neg (by simpa using h)]

theorem step_plus (outer : List (List Part)) (items : List Part) (pos : Nat) :
    (⟨outer, items, true⟩ : Progress).step pos .plus = .ok ⟨outer, items, false⟩ := rfl

theorem run_cons {s s' : Progress} {pos : Nat} {l : Lexeme} (h : s.step pos l = .ok s')
    (ls : List Lexeme) : s.run pos (l :: ls) = s'.run (pos + l.width) ls := by
  rw [run, h]

mutual
/-- **A printed part is read as its shape**, wherever a part may come next. -/
theorem run_printed : ∀ (p : Part) (s : Progress) (pos : Nat) (ls : List Lexeme),
    p.solid = true → s.Ready →
      s.run pos (printed p ++ ls) = (s.push p.nameless).run (pos + p.compiled.length) ls
  | .literal t, s, pos, ls, _, h => by
    rw [printed, List.cons_append, List.nil_append, run_cons (step_literal h pos _),
      Part.unescape_escape]
    simp [nameless, Part.compiled, Lexeme.width]
  | .slot _, s, pos, ls, _, h => by
    rw [printed, List.cons_append, List.nil_append, run_cons (step_slot h pos)]
    rfl
  | .group ps, s, pos, ls, hp, h => by
    obtain ⟨hne, hps⟩ := Part.solid_group.1 hp
    have hrev : (namelessAll ps).reverse ≠ [] := by
      simpa [Part.namelessAll_eq_nil] using hne
    rw [printed, List.cons_append, List.cons_append, List.append_assoc,
      run_cons (step_opening h pos), run_printedJoined ps s.items s.outer [] _ _ hps,
      List.append_nil, List.cons_append, List.nil_append,
      run_cons (step_closing _ _ _ hrev _), List.reverse_reverse]
    simp [push, nameless, Part.compiled, Lexeme.width, Nat.add_assoc, Nat.add_comm,
      Nat.add_left_comm]

theorem run_printedJoined : ∀ (ps : List Part) (before : List Part) (outer : List (List Part))
    (items : List Part) (pos : Nat) (ls : List Lexeme), solidAll ps = true →
      (⟨before :: outer, items, false⟩ : Progress).run pos (printedJoined ps ++ ls) =
        (⟨before :: outer, (namelessAll ps).reverse ++ items, !ps.isEmpty⟩ : Progress).run
          (pos + (Part.compiledJoined ps).length) ls
  | [], before, outer, items, pos, ls, _ => rfl
  | [p], before, outer, items, pos, ls, hp => by
    rw [printedJoined, run_printed p _ pos ls (Part.solidAll_cons.1 hp).1 (.inl rfl)]
    rfl
  | p :: q :: ps, before, outer, items, pos, ls, hp => by
    obtain ⟨hp, hps⟩ := Part.solidAll_cons.1 hp
    rw [printedJoined, List.append_assoc, List.cons_append,
      run_printed p _ pos _ hp (.inl rfl), push, run_cons (step_plus _ _ _),
      run_printedJoined (q :: ps) before outer (p.nameless :: items) _ ls hps]
    simp [namelessAll, Part.compiledJoined, Lexeme.width, Nat.add_assoc, Nat.add_comm,
      Nat.add_left_comm]
end

/-- At the top level parts need nothing between them. -/
theorem run_printedAll : ∀ (ps items : List Part) (ended : Bool) (pos : Nat),
    solidAll ps = true →
      (⟨[], items, ended⟩ : Progress).run pos (printedAll ps) =
        .ok (items.reverse ++ namelessAll ps)
  | [], items, ended, pos, _ => by simp [printedAll, run, finish, namelessAll]
  | p :: ps, items, ended, pos, hp => by
    obtain ⟨hp, hps⟩ := Part.solidAll_cons.1 hp
    have ih := run_printedAll ps (p.nameless :: items) true (pos + p.compiled.length) hps
    rw [printedAll, List.flatMap_cons, run_printed p _ pos _ hp (.inr rfl), push]
    rw [printedAll] at ih
    rw [ih]
    simp [namelessAll]

end Progress

theorem skeleton_compiledAll {ps : List Part} (h : solidAll ps = true) :
    skeleton (compiledAll ps) = .ok (namelessAll ps) := by
  unfold skeleton
  split
  · rename_i hb
    rw [Part.isBlank_compiledAll.1 hb]
    rfl
  · rw [lexemes_compiledAll, Progress.start, Progress.run_printedAll ps [] false 0 h]
    rfl

/-! ## Naming the slots -/

mutual
theorem relabel_nameless : ∀ (p : Part) (rest : List Text),
    relabel p.nameless (p.slots ++ rest) = (p, rest)
  | .literal _, _ => rfl
  | .slot _, _ => rfl
  | .group ps, rest => by
    simp only [nameless, Part.slots, relabel, relabelAll_namelessAll ps rest]

theorem relabelAll_namelessAll : ∀ (ps : List Part) (rest : List Text),
    relabelAll (namelessAll ps) (slotsAll ps ++ rest) = (ps, rest)
  | [], _ => rfl
  | p :: ps, rest => by
    simp only [namelessAll, slotsAll, relabelAll, List.append_assoc, relabel_nameless p,
      relabelAll_namelessAll ps rest]
end

mutual
/-- Naming keeps the shape. -/
theorem nameless_relabel : ∀ (p : Part) (names : List Text),
    (relabel p names).1.nameless = p.nameless
  | .literal _, _ => rfl
  | .slot _, [] => rfl
  | .slot _, _ :: _ => rfl
  | .group ps, names => by
    simp only [relabel, nameless, namelessAll_relabelAll ps names]

theorem namelessAll_relabelAll : ∀ (ps : List Part) (names : List Text),
    namelessAll (relabelAll ps names).1 = namelessAll ps
  | [], _ => rfl
  | p :: ps, names => by
    simp only [relabelAll, namelessAll, nameless_relabel p, namelessAll_relabelAll ps]
end

theorem namelessAll_namelessAll (ps : List Part) :
    namelessAll (namelessAll ps) = namelessAll ps := by
  have h := congrArg (fun r => namelessAll r.1) (relabelAll_namelessAll ps [])
  simpa [namelessAll_relabelAll] using h

theorem slotsAll_relabelAll {ps : List Part} {names : List Text}
    (h : names.length = (slotsAll ps).length) : slotsAll (relabelAll ps names).1 = names := by
  obtain ⟨hn, hl⟩ := relabelAll_slots ps names (by omega)
  have hlen := congrArg List.length hn
  rw [List.length_append] at hlen
  rw [List.eq_nil_of_length_eq_zero (l := (relabelAll ps names).2) (by omega),
    List.append_nil] at hn
  exact hn

/-- Where there is a name for every slot, no default name is used. -/
theorem slotNames_self (names : List Text) : slotNames names names.length = names := by
  apply List.ext_getElem?
  intro k
  by_cases hk : k < names.length
  · simp [slotNames, hk]
  · have hn : names.length ≤ k := Nat.le_of_not_lt hk
    simp [slotNames, hn]

theorem slotNames_getElem? (given : List Text) {count k : Nat} (hk : k < count) :
    (slotNames given count)[k]? = some (given[k]?.getD (defaultName k)) := by
  simp [slotNames, hk]

/-- What a compiled template is read as, whatever the names. -/
theorem parse_compiled {ps : List Part} (h : solidAll ps = true) (names : List Text) :
    parse names (compiledAll ps) =
      .ok (relabelAll (namelessAll ps) (slotNames names (slotsAll ps).length)).1 := by
  simp only [parse, skeleton_compiledAll h, Part.slotsAll_nameless_length]

theorem parse_own_names {ps : List Part} (h : solidAll ps = true) :
    parse (slotsAll ps) (compiledAll ps) = .ok ps := by
  have hr := relabelAll_namelessAll ps []
  rw [List.append_nil] at hr
  rw [parse_compiled h, slotNames_self, hr]

/-- **Reading inverts compiling.** The compiled form of solid parts is read back as these parts,
given the names of their slots. Given other names, fewer or more than there are slots, the parts
that are read have the same shape, and the name of each slot is the one given for its place or
else the default one. -/
theorem parse_compiledAll (ps : List Part) (h : solidAll ps = true) :
    parse (slotsAll ps) (compiledAll ps) = .ok ps ∧
      ∀ names : List Text, ∃ qs, parse names (compiledAll ps) = .ok qs ∧
        namelessAll qs = namelessAll ps ∧ (slotsAll qs).length = (slotsAll ps).length ∧
        ∀ k < (slotsAll ps).length,
          (slotsAll qs)[k]? = some (names[k]?.getD ("Arg".toList ++ Text.ofNat (k + 1))) := by
  constructor
  · exact parse_own_names h
  · intro names
    have hlen := slotNames_length names (slotsAll ps).length
    have hs := slotsAll_relabelAll
      (hlen.trans (Part.slotsAll_nameless_length ps).symm)
    refine ⟨_, parse_compiled h names, ?_, ?_, ?_⟩
    · rw [namelessAll_relabelAll, namelessAll_namelessAll]
    · rw [hs, hlen]
    · intro k hk
      rw [hs, slotNames_getElem? names hk]
      rfl

/-- A nested group, with a bracket and a backslash in its text, read back with and without names. -/
theorem parse_compiledAll_nested :
    let ps : List Part := [.group [.literal ['a', '[', '\\'], .group [.slot ['X']]], .slot ['Y']]
    solidAll ps = true ∧ parse [['X'], ['Y']] (compiledAll ps) = .ok ps ∧
      ∃ qs, parse [] (compiledAll ps) = .ok qs ∧ namelessAll qs = namelessAll ps :=
  let ps : List Part := [.group [.literal ['a', '[', '\\'], .group [.slot ['X']]], .slot ['Y']]
  have h : solidAll ps = true := by decide
  have hr := parse_compiledAll ps h
  have ⟨qs, hq, hn, _⟩ := hr.2 []
  ⟨h, hr.1, qs, hq, hn⟩

end CitationStudio.Compiled
