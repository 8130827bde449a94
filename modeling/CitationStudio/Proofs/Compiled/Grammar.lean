import CitationStudio.Proofs.Compiled.RoundTrip

/-! # The grammar of compiled templates

`Spells` says which texts stand for which parts, without a reader: a literal between braces, a slot
mark, or a group of parts with a plus between neighbours and perhaps one more at the end. The reader
takes exactly these texts. In one direction a spelt part is read wherever a part may come next. In
the other, the reader holds groups that are still open, so a run that succeeds shows what the rest
of its text has to be (`Closes`): the rest of each open group, innermost first, and then the rest of
the template. -/

namespace CitationStudio.Compiled

/-- What may stand between the braces of a literal: characters other than a backslash and a closing
brace, and backslashes each with the character after it. -/
inductive Body : Text → Prop
  | nil : Body []
  | plain {c : Char} {t : Text} : c ≠ '\\' → c ≠ '}' → Body t → Body (c :: t)
  | pair {c : Char} {t : Text} : Body t → Body ('\\' :: c :: t)

mutual
/-- The text stands for the part. -/
inductive Spells : Text → Part → Prop
  | literal {body : Text} :
    Body body → Spells ('{' :: body ++ ['}']) (.literal (Part.unescape body))
  | slot : Spells Part.slotMark (.slot [])
  | group {t : Text} {ps : List Part} : SpellsItems t ps → Spells ('[' :: t ++ [']']) (.group ps)

/-- The text between the brackets of a group stands for the parts of the group. -/
inductive SpellsItems : Text → List Part → Prop
  | one {t : Text} {p : Part} : Spells t p → SpellsItems t [p]
  | trailing {t : Text} {p : Part} : Spells t p → SpellsItems (t ++ ['+']) [p]
  | more {t u : Text} {p : Part} {ps : List Part} :
      Spells t p → SpellsItems u ps → SpellsItems (t ++ '+' :: u) (p :: ps)
end

/-- The text stands for a template: parts, each perhaps with a plus after it. -/
inductive SpellsAll : Text → List Part → Prop
  | nil : SpellsAll [] []
  | cons {t u : Text} {p : Part} {ps : List Part} :
      Spells t p → SpellsAll u ps → SpellsAll (t ++ u) (p :: ps)
  | plus {t u : Text} {p : Part} {ps : List Part} :
      Spells t p → SpellsAll u ps → SpellsAll (t ++ '+' :: u) (p :: ps)

/-! ## Literals -/

theorem Body.literalBody {body : Text} (h : Body body) (rest : Text) :
    literalBody (body ++ '}' :: rest) = .ok (body, rest) := by
  induction h with
  | nil => simp [Compiled.literalBody]
  | plain h1 h2 _ ih => rw [List.cons_append, literalBody_plain h1 h2, ih]; rfl
  | pair _ ih => rw [List.cons_append, List.cons_append, Compiled.literalBody, ih]

/-- A character that neither begins a pair nor stands alone as a backslash is none. -/
theorem ne_backslash {c : Char} {t : Text} (hlone : c = '\\' → t = [] → False)
    (hpair : ∀ (d : Char) (u : Text), c = '\\' → t = d :: u → False) : c ≠ '\\' := by
  rintro rfl
  cases t with
  | nil => exact hlone rfl rfl
  | cons d u => exact hpair d u rfl rfl

theorem body_of_literalBody {t body rest : Text} (h : literalBody t = .ok (body, rest)) :
    Body body := by
  fun_induction literalBody t generalizing body rest with
  | case1 => cases h
  | case2 => cases h
  | case3 c t b r ht ih =>
    cases h
    exact .pair (ih ht)
  | case4 => cases h
  | case5 => cases h; exact .nil
  | case6 c t hlone hpair hc b r ht ih =>
    cases h
    exact .plain (ne_backslash hlone hpair) hc (ih ht)
  | case7 => cases h

/-! ## A spelt part is read -/

theorem Spells.head? {t : Text} {p : Part} (h : Spells t p) :
    t.head? = some '{' ∨ t.head? = some '[' := by
  cases h with
  | literal _ => exact .inl rfl
  | slot => exact .inr rfl
  | group _ => exact .inr rfl

theorem Spells.head?_append {t : Text} {p : Part} (h : Spells t p) (rest : Text) :
    (t ++ rest).head? = t.head? := by
  cases h <;> rfl

theorem SpellsItems.ne_nil {t : Text} {ps : List Part} (h : SpellsItems t ps) : t ≠ [] := by
  cases h with
  | one hp => rintro rfl; cases hp.head? <;> contradiction
  | trailing _ | more _ _ => simp

theorem SpellsItems.head?_ne {t : Text} {ps : List Part} (h : SpellsItems t ps) (rest : Text) :
    (t ++ rest).head? ≠ some '%' := by
  have hp {u : Text} {p : Part} (hu : Spells u p) (v : Text) : (u ++ v).head? ≠ some '%' := by
    rw [hu.head?_append]
    rcases hu.head? with hc | hc <;> simp [hc]
  cases h with
  | one h => exact hp h rest
  | trailing h => rw [List.append_assoc]; exact hp h _
  | more h _ => rw [List.append_assoc]; exact hp h _

namespace Progress

mutual
/-- **A spelt part is read**, wherever a part may come next. -/
theorem run_spelt : ∀ {t : Text} {p : Part}, Spells t p → ∀ {s : Progress} (pos : Nat)
    (rest : Text), s.Ready →
      s.run pos (lexemes (t ++ rest)) = (s.push p).run (pos + t.length) (lexemes rest)
  | _, _, @Spells.literal body hb, s, pos, rest, hs => by
    rw [List.cons_append, List.cons_append, List.append_assoc, List.singleton_append,
      lexemes_literal (hb.literalBody rest), run_cons (step_literal hs pos body)]
    simp [Lexeme.width]
  | _, _, .slot, s, pos, rest, hs => by
    rw [lexemes_slotMark, run_cons (step_slot hs pos)]
    rfl
  | _, _, @Spells.group t ps hi, s, pos, rest, hs => by
    have hne : ps.reverse ++ [] ≠ [] := by cases hi <;> simp
    obtain ⟨ended, hr⟩ := run_speltItems hi s.items s.outer [] (pos + 1) rest
    rw [List.cons_append, List.cons_append, List.append_assoc, List.singleton_append,
      lexemes_opening (hi.head?_ne _), run_cons (step_opening hs pos), Lexeme.width, hr,
      lexemes_closing, run_cons (step_closing _ _ _ hne _), List.append_nil, List.reverse_reverse]
    simp [push, Lexeme.width, Nat.add_comm, Nat.add_left_comm]

theorem run_speltItems : ∀ {t : Text} {ps : List Part}, SpellsItems t ps →
    ∀ (before : List Part) (outer : List (List Part)) (items : List Part) (pos : Nat)
      (rest : Text), ∃ ended,
      (⟨before :: outer, items, false⟩ : Progress).run pos (lexemes (t ++ ']' :: rest)) =
        (⟨before :: outer, ps.reverse ++ items, ended⟩ : Progress).run (pos + t.length)
          (lexemes (']' :: rest))
  | _, _, .one h, before, outer, items, pos, rest =>
    ⟨true, run_spelt h pos (']' :: rest) (.inl rfl)⟩
  | _, _, @SpellsItems.trailing t p h, before, outer, items, pos, rest => by
    refine ⟨false, ?_⟩
    rw [List.append_assoc, List.singleton_append, run_spelt h pos _ (.inl rfl), lexemes_plus,
      push, run_cons (step_plus _ _ _), List.length_append]
    rfl
  | _, _, @SpellsItems.more t u p ps h hi, before, outer, items, pos, rest => by
    obtain ⟨ended, hr⟩ := run_speltItems hi before outer (p :: items) (pos + t.length + 1) rest
    refine ⟨ended, ?_⟩
    rw [List.append_assoc, List.cons_append, run_spelt h pos _ (.inl rfl), lexemes_plus,
      push, run_cons (step_plus _ _ _), Lexeme.width, hr]
    simp [Nat.add_assoc, Nat.add_comm, Nat.add_left_comm]
end

/-- At the top level the parts of a template are read one after the other. -/
theorem run_speltAll {t : Text} {ps : List Part} (h : SpellsAll t ps) :
    ∀ (items : List Part) (ended : Bool) (pos : Nat),
      (⟨[], items, ended⟩ : Progress).run pos (lexemes t) = .ok (items.reverse ++ ps) := by
  induction h with
  | nil =>
    intro items ended pos
    rw [lexemes, List.append_nil]
    rfl
  | cons hp _ ih =>
    intro items ended pos
    rw [run_spelt hp pos _ (.inr rfl), push, ih, List.reverse_cons, List.append_assoc,
      List.singleton_append]
  | plus hp _ ih =>
    intro items ended pos
    rw [run_spelt hp pos _ (.inr rfl), push, lexemes_plus, run_cons (step_plus _ _ _), ih,
      List.reverse_cons, List.append_assoc, List.singleton_append]

/-! ## What is read is spelt -/

/-- A lexeme that is no plus and no closing bracket is taken only where a part may come next. -/
theorem step_part_inv {s s' : Progress} {pos : Nat} {l : Lexeme}
    {r : Except (Problem × Nat) Progress}
    (hl : s.step pos l = if (s.ended && !s.outer.isEmpty) = true
      then .error (.missingJoin, pos) else r) (h : s.step pos l = .ok s') :
    s.Ready ∧ r = .ok s' := by
  rw [hl] at h
  split at h
  · cases h
  · rename_i hb
    refine ⟨?_, h⟩
    cases he : s.ended with
    | false => exact .inl he
    | true => exact .inr (by simpa [he] using hb)

/-- What a step can do: it takes a plus after a part, the end of a group that has parts, or the
beginning of a part where one may come. -/
theorem step_cases {s s' : Progress} {pos : Nat} {l : Lexeme} (h : s.step pos l = .ok s') :
    (l = .plus ∧ s.ended = true ∧ s' = ⟨s.outer, s.items, false⟩) ∨
    (l = .closing ∧ s.items ≠ [] ∧ ∃ before outer, s.outer = before :: outer ∧
      s' = ⟨outer, .group s.items.reverse :: before, true⟩) ∨
    (s.Ready ∧ ((∃ body, l = .literal body ∧ s' = s.push (.literal (Part.unescape body))) ∨
      (l = .slot ∧ s' = s.push (.slot [])) ∨
      (l = .opening ∧ s' = ⟨s.items :: s.outer, [], false⟩))) := by
  cases l with
  | plus =>
    change (if s.ended = true then Except.ok _ else Except.error _) = _ at h
    split at h
    · rename_i he
      cases h
      exact .inl ⟨rfl, he, rfl⟩
    · cases h
  | closing =>
    obtain ⟨_ | ⟨before, outer⟩, items, ended⟩ := s
    · cases h
    · change (if items.isEmpty = true then Except.error _ else Except.ok _) = _ at h
      split at h
      · cases h
      · rename_i hi
        cases h
        exact .inr (.inl ⟨rfl, by simpa using hi, before, outer, rfl, rfl⟩)
  | literal body =>
    obtain ⟨hs, h⟩ := step_part_inv rfl h
    cases h
    exact .inr (.inr ⟨hs, .inl ⟨body, rfl, rfl⟩⟩)
  | slot =>
    obtain ⟨hs, h⟩ := step_part_inv rfl h
    cases h
    exact .inr (.inr ⟨hs, .inr (.inl ⟨rfl, rfl⟩)⟩)
  | opening =>
    obtain ⟨hs, h⟩ := step_part_inv rfl h
    cases h
    exact .inr (.inr ⟨hs, .inr (.inr ⟨rfl, rfl⟩)⟩)
  | unclosed length dangling =>
    obtain ⟨-, h⟩ := step_part_inv rfl h
    cases h
  | stray c =>
    obtain ⟨-, h⟩ := step_part_inv rfl h
    cases h

/-- The text goes on with the items of a group, up to its end: some have been read before if it has
`started`, and the last of them has just `ended` or has a plus after it. -/
def Continues (started ended : Bool) (t : Text) (ps : List Part) : Prop :=
  match ended with
  | false => SpellsItems t ps ∨ (started = true ∧ t = [] ∧ ps = [])
  | true => (t = [] ∧ ps = []) ∨ ∃ u, t = '+' :: u ∧ (SpellsItems u ps ∨ (u = [] ∧ ps = []))

/-- The text goes on with the parts of a template. -/
def ContinuesAll (ended : Bool) (t : Text) (ps : List Part) : Prop :=
  SpellsAll t ps ∨ (ended = true ∧ ∃ u, t = '+' :: u ∧ SpellsAll u ps)

/-- What the rest of a text has to be for the parts to come out: the rest of the innermost group and
its bracket, then what the groups around it need, and at last the rest of the template. -/
def Closes : List (List Part) → List Part → Bool → Text → List Part → Prop
  | [], items, ended, t, result => ∃ ps, ContinuesAll ended t ps ∧ result = items.reverse ++ ps
  | before :: outer, items, ended, t, result =>
    ∃ u ps v, t = u ++ ']' :: v ∧ Continues (!items.isEmpty) ended u ps ∧
      Closes outer (.group (items.reverse ++ ps) :: before) true v result

theorem Closes.part {s : Progress} {t u : Text} {p : Part} {result : List Part} (hs : s.Ready)
    (hp : Spells t p) (h : Closes s.outer (p :: s.items) true u result) :
    Closes s.outer s.items s.ended (t ++ u) result := by
  obtain ⟨outer, items, ended⟩ := s
  cases outer with
  | nil =>
    obtain ⟨ps, hc, rfl⟩ := h
    have hall : SpellsAll (t ++ u) (p :: ps) := by
      rcases hc with hu | ⟨-, v, rfl, hv⟩
      · exact .cons hp hu
      · exact .plus hp hv
    exact ⟨p :: ps, .inl hall, by simp⟩
  | cons before outer =>
    have he : ended = false := hs.resolve_right (by simp)
    subst he
    obtain ⟨v, ps, w, rfl, hc, h⟩ := h
    have hi : SpellsItems (t ++ v) (p :: ps) := by
      rcases hc with ⟨rfl, rfl⟩ | ⟨v, rfl, hv | ⟨rfl, rfl⟩⟩
      · rw [List.append_nil]
        exact .one hp
      · exact .more hp hv
      · exact .trailing hp
    refine ⟨t ++ v, p :: ps, w, (List.append_assoc ..).symm, .inl hi, ?_⟩
    rw [List.reverse_cons, List.append_assoc, List.singleton_append] at h
    exact h

theorem run_cons_inv {s : Progress} {pos : Nat} {l : Lexeme} {ls : List Lexeme}
    {result : List Part} (h : s.run pos (l :: ls) = .ok result) :
    ∃ s', s.step pos l = .ok s' ∧ s'.run (pos + l.width) ls = .ok result := by
  rw [run] at h
  split at h
  · rename_i s' hs
    exact ⟨s', hs, h⟩
  · cases h

/-- **A run that succeeds** shows what its text is. -/
theorem closes_of_run {t : Text} {s : Progress} {pos : Nat} {result : List Part}
    (h : s.run pos (lexemes t) = .ok result) : Closes s.outer s.items s.ended t result := by
  fun_induction lexemes t generalizing s pos with
  | case1 =>
    -- the end of the text: no group is open
    obtain ⟨outer, items, ended⟩ := s
    simp only [run, finish] at h
    split at h
    · rename_i ho
      cases h
      obtain rfl : outer = [] := by simpa using ho
      exact ⟨[], .inl .nil, by simp⟩
    · cases h
  | case2 t ih =>
    obtain ⟨s', hstep, hrun⟩ := run_cons_inv h
    obtain ⟨hl, -⟩ | ⟨hl, -⟩ | ⟨hs, ⟨body, hl, -⟩ | ⟨-, rfl⟩ | ⟨hl, -⟩⟩ := step_cases hstep
    any_goals cases hl
    exact .part hs .slot (ih hrun)
  | case3 t body rest hb _ ih =>
    obtain ⟨s', hstep, hrun⟩ := run_cons_inv h
    obtain ⟨hl, -⟩ | ⟨hl, -⟩ | ⟨hs, ⟨body, hl, rfl⟩ | ⟨hl, -⟩ | ⟨hl, -⟩⟩ := step_cases hstep
    any_goals cases hl
    have hc := Closes.part hs (.literal (body_of_literalBody hb)) (ih hrun)
    rwa [List.cons_append, List.cons_append, List.append_assoc, List.singleton_append,
      ← literalBody_append hb] at hc
  | case4 =>
    obtain ⟨s', hstep, -⟩ := run_cons_inv h
    obtain ⟨hl, -⟩ | ⟨hl, -⟩ | ⟨-, ⟨body, hl, -⟩ | ⟨hl, -⟩ | ⟨hl, -⟩⟩ := step_cases hstep
    all_goals cases hl
  | case5 t _ _ ih =>
    -- a group begins; what it holds and its bracket make up a part
    obtain ⟨s', hstep, hrun⟩ := run_cons_inv h
    obtain ⟨hl, -⟩ | ⟨hl, -⟩ | ⟨hs, ⟨body, hl, -⟩ | ⟨hl, -⟩ | ⟨-, rfl⟩⟩ := step_cases hstep
    any_goals cases hl
    obtain ⟨u, ps, v, rfl, hc, hv⟩ := ih hrun
    have hu : SpellsItems u ps := hc.resolve_right (by simp)
    have hp := Closes.part hs (.group hu) hv
    rwa [List.cons_append, List.cons_append, List.append_assoc, List.singleton_append] at hp
  | case6 t _ _ _ ih =>
    obtain ⟨s', hstep, hrun⟩ := run_cons_inv h
    obtain ⟨hl, -⟩ | ⟨-, hi, before, outer, ho, rfl⟩ |
      ⟨-, ⟨body, hl, -⟩ | ⟨hl, -⟩ | ⟨hl, -⟩⟩ := step_cases hstep
    any_goals cases hl
    rw [ho]
    refine ⟨[], [], t, rfl, ?_, by simpa using ih hrun⟩
    cases s.ended with
    | false => exact .inr ⟨by simpa using hi, rfl, rfl⟩
    | true => exact .inl ⟨rfl, rfl⟩
  | case7 t _ _ _ _ ih =>
    obtain ⟨s', hstep, hrun⟩ := run_cons_inv h
    obtain ⟨-, he, rfl⟩ | ⟨hl, -⟩ | ⟨-, ⟨body, hl, -⟩ | ⟨hl, -⟩ | ⟨hl, -⟩⟩ := step_cases hstep
    any_goals cases hl
    obtain ⟨outer, items, ended⟩ := s
    obtain rfl : ended = true := he
    cases outer with
    | nil =>
      obtain ⟨ps, hc, rfl⟩ := ih hrun
      exact ⟨ps, .inr ⟨rfl, t, rfl, hc.resolve_right (by simp)⟩, rfl⟩
    | cons before outer =>
      obtain ⟨u, ps, v, rfl, hc, hv⟩ := ih hrun
      refine ⟨'+' :: u, ps, v, rfl, .inr ⟨u, rfl, ?_⟩, hv⟩
      exact hc.imp_right And.right
  | case8 =>
    obtain ⟨s', hstep, -⟩ := run_cons_inv h
    obtain ⟨hl, -⟩ | ⟨hl, -⟩ | ⟨-, ⟨body, hl, -⟩ | ⟨hl, -⟩ | ⟨hl, -⟩⟩ := step_cases hstep
    all_goals cases hl

end Progress

/-! ## The reader takes exactly the spelt texts -/

theorem Spells.not_blank {t : Text} {p : Part} (h : Spells t p) (rest : Text) :
    (t ++ rest).isBlank = false := by
  cases h <;> rfl

theorem SpellsAll.eq_nil {t : Text} {ps : List Part} (h : SpellsAll t ps)
    (hb : t.isBlank = true) : ps = [] := by
  cases h with
  | nil => rfl
  | cons hp _ => rw [hp.not_blank] at hb; cases hb
  | plus hp _ => rw [hp.not_blank] at hb; cases hb

/-- The shape of a template is read off the texts that spell it, and off no others. -/
theorem skeleton_eq_ok_iff {t : Text} {ps : List Part} :
    skeleton t = .ok ps ↔ (t.isBlank = true ∧ ps = []) ∨ SpellsAll t ps := by
  unfold skeleton
  constructor
  · intro h
    split at h
    · rename_i hb
      cases h
      exact .inl ⟨hb, rfl⟩
    · split at h
      · rename_i qs hr
        cases h
        obtain ⟨qs, hc, rfl⟩ := Progress.closes_of_run hr
        exact .inr (hc.resolve_right fun hp => by cases hp.1)
      · cases h
  · rintro (⟨hb, rfl⟩ | h)
    · rw [if_pos hb]
    · split
      · rename_i hb
        rw [h.eq_nil hb]
      · rw [Progress.start, Progress.run_speltAll h [] false 0]
        rfl

/-- A template can be read exactly if its shape can. -/
theorem parse_eq_ok_iff {names : List Text} {t : Text} :
    (∃ ps, parse names t = .ok ps) ↔ ∃ ps, skeleton t = .ok ps := by
  unfold parse
  cases skeleton t with
  | ok ps => exact iff_of_true ⟨_, rfl⟩ ⟨_, rfl⟩
  | error fault => exact iff_of_false (by rintro ⟨_, h⟩; cases h) (by rintro ⟨_, h⟩; cases h)

theorem skeleton_of_parse {names : List Text} {t : Text} {ps : List Part}
    (h : parse names t = .ok ps) :
    ∃ qs, skeleton t = .ok qs ∧ Part.namelessAll qs = Part.namelessAll ps := by
  unfold parse at h
  split at h
  · rename_i qs hqs
    cases h
    exact ⟨qs, hqs, (namelessAll_relabelAll _ _).symm⟩
  · cases h

/-- **The grammar of compiled templates.** Whatever names are given, reading succeeds exactly on the
blank texts and on those that spell a template, and reports a fault on every other text. -/
theorem parse_ok_iff_spelt (names : List Text) (t : Text) :
    ((∃ ps, parse names t = .ok ps) ↔ t.isBlank = true ∨ ∃ ps, SpellsAll t ps) ∧
      ((∃ fault, parse names t = .error fault) ↔
        ¬ (t.isBlank = true ∨ ∃ ps, SpellsAll t ps)) := by
  have hok : (∃ ps, parse names t = .ok ps) ↔ t.isBlank = true ∨ ∃ ps, SpellsAll t ps := by
    rw [parse_eq_ok_iff]
    simp only [skeleton_eq_ok_iff, exists_or, exists_and_left, exists_eq, and_true]
  refine ⟨hok, ?_⟩
  rw [← hok]
  cases parse names t with
  | ok ps => exact iff_of_false (by rintro ⟨_, h⟩; cases h) (not_not_intro ⟨ps, rfl⟩)
  | error fault => exact iff_of_true ⟨fault, rfl⟩ (by rintro ⟨_, h⟩; cases h)

end CitationStudio.Compiled
