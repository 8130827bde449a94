import CitationStudio.Proofs.Compiled.Grammar

/-! # What is written back as it was

A template can be spelt in many ways: with a plus between parts or without, with one more at the end
of a group, with backslashes where none are needed or without some that are. What is read is written
back in one of them. A text that can be read is in this form if its lexemes are tidy: no plus stands
outside all groups or right before the bracket that closes one, and in the literals the reserved
characters have backslashes before them and no others have. -/

namespace CitationStudio.Compiled

open Part (escape unescape isReserved solidAll compiledAll compiledJoined slotsAll namelessAll)

/-! ## Tidy lexemes -/

/-- A literal's text in which each reserved character is behind a backslash of its own, and no other
character is. -/
inductive Exact : Text → Prop
  | nil : Exact []
  | plain {c : Char} {t : Text} : isReserved c = false → Exact t → Exact (c :: t)
  | escaped {c : Char} {t : Text} : isReserved c = true → Exact t → Exact ('\\' :: c :: t)

/-- Is every plus inside a group, if `depth` groups are open before the lexemes? -/
def plusesGrouped : Nat → List Lexeme → Bool
  | _, [] => true
  | depth, .opening :: ls => plusesGrouped (depth + 1) ls
  | depth, .closing :: ls => plusesGrouped (depth - 1) ls
  | depth, .plus :: ls => depth != 0 && plusesGrouped depth ls
  | depth, _ :: ls => plusesGrouped depth ls

/-- No plus is right before a closing bracket, and the literals have no backslash too many or too
few. -/
structure Neat (ls : List Lexeme) : Prop where
  between : ¬ [.plus, .closing] <:+: ls
  literals : ∀ body, .literal body ∈ ls → Exact body

/-- Neat lexemes, and no plus outside groups. -/
structure Tidy (ls : List Lexeme) : Prop extends Neat ls where
  grouped : plusesGrouped 0 ls = true

theorem Neat.of_infix {ls ks : List Lexeme} (h : Neat ls) (hk : ks <:+: ls) : Neat ks :=
  ⟨fun hpair => h.between (hpair.trans hk), fun body hb => h.literals body (hk.subset hb)⟩

/-! ## Literals -/

theorem exact_escape (t : Text) : Exact (escape t) := by
  induction t with
  | nil => exact .nil
  | cons c t ih =>
    rw [escape]
    split
    · rename_i hc
      exact .escaped hc ih
    · rename_i hc
      exact .plain (Bool.eq_false_iff.2 hc) ih

theorem ne_backslash_of_not_reserved {c : Char} (h : isReserved c = false) : c ≠ '\\' := by
  rintro rfl
  exact absurd h (by decide)

theorem Exact.escape_unescape {body : Text} (h : Exact body) : escape (unescape body) = body := by
  induction h with
  | nil => rfl
  | plain hc _ ih =>
    rw [Part.unescape_cons (ne_backslash_of_not_reserved hc), escape, hc, if_neg Bool.false_ne_true,
      ih]
  | escaped hc _ ih => rw [unescape, escape, if_pos hc, ih]

/-! ## The lexemes of a spelt part -/

theorem SpellsItems.exists_cons {t : Text} {ps : List Part} (h : SpellsItems t ps) :
    ∃ q qs, ps = q :: qs := by
  cases h <;> exact ⟨_, _, rfl⟩

theorem lexemes_of_append {t : Text} {ks : List Lexeme}
    (h : ∀ rest, lexemes (t ++ rest) = ks ++ lexemes rest) : lexemes t = ks := by
  have hself := h []
  rwa [List.append_nil, lexemes, List.append_nil] at hself

theorem Body.lexemes_append {body : Text} (h : Body body) (rest : Text) :
    lexemes ('{' :: body ++ ['}'] ++ rest) = [.literal body] ++ lexemes rest := by
  rw [List.cons_append, List.cons_append, List.append_assoc, List.singleton_append,
    lexemes_literal (h.literalBody rest)]
  rfl

theorem lexemes_group {t : Text} (hhead : ∀ rest, (t ++ rest).head? ≠ some '%')
    (ht : ∀ rest, lexemes (t ++ rest) = lexemes t ++ lexemes rest) (rest : Text) :
    lexemes ('[' :: t ++ [']'] ++ rest) =
      .opening :: (lexemes t ++ [.closing]) ++ lexemes rest := by
  rw [List.cons_append, List.cons_append, List.append_assoc, List.singleton_append,
    lexemes_opening (hhead _), ht, lexemes_closing, List.cons_append, List.append_assoc]
  rfl

mutual
/-- A spelt part is cut into its own lexemes, whatever follows it. -/
theorem Spells.lexemes_append : ∀ {t : Text} {p : Part}, Spells t p → ∀ rest,
    lexemes (t ++ rest) = lexemes t ++ lexemes rest
  | _, _, .literal hb, rest => by
    rw [lexemes_of_append hb.lexemes_append, hb.lexemes_append]
  | _, _, .slot, rest => by
    rw [@lexemes_of_append Part.slotMark [.slot] lexemes_slotMark, lexemes_slotMark]
    rfl
  | _, _, .group hi, rest => by
    have hgroup := lexemes_group hi.head?_ne hi.lexemes_append
    rw [lexemes_of_append hgroup, hgroup]

theorem SpellsItems.lexemes_append : ∀ {t : Text} {ps : List Part}, SpellsItems t ps → ∀ rest,
    lexemes (t ++ rest) = lexemes t ++ lexemes rest
  | _, _, .one hp, rest => hp.lexemes_append rest
  | _, _, .trailing hp, rest => by
    rw [List.append_assoc, hp.lexemes_append, hp.lexemes_append, List.singleton_append,
      lexemes_plus, lexemes_plus, lexemes, List.append_assoc]
    rfl
  | _, _, .more hp hi, rest => by
    rw [List.append_assoc, hp.lexemes_append, hp.lexemes_append, List.cons_append, lexemes_plus,
      lexemes_plus, hi.lexemes_append, List.append_assoc, List.cons_append]
end

/-! ## Compiled forms are tidy -/

/-- Two lexemes side by side are so in one of two lists, or where these meet. -/
theorem pair_infix_append {a b : Lexeme} {ls ks : List Lexeme} (h : [a, b] <:+: ls ++ ks) :
    [a, b] <:+: ls ∨ [a, b] <:+: ks ∨ (ls.getLast? = some a ∧ ks.head? = some b) := by
  induction ls with
  | nil => exact .inr (.inl h)
  | cons l ls ih =>
    rw [List.cons_append, List.infix_cons_iff] at h
    rcases h with h | h
    · obtain ⟨rfl, hb⟩ := List.cons_prefix_cons.1 h
      cases ls with
      | nil =>
        obtain ⟨rest, hrest⟩ := hb
        exact .inr (.inr ⟨rfl, congrArg List.head? hrest.symm⟩)
      | cons m ls =>
        obtain ⟨rfl, -⟩ := List.cons_prefix_cons.1 hb
        exact .inl ⟨[], ls, rfl⟩
    · rcases ih h with h | h | ⟨hlast, hhead⟩
      · exact .inl (h.trans (List.suffix_cons _ _).isInfix)
      · exact .inr (.inl h)
      · exact .inr (.inr ⟨by rw [List.getLast?_cons, hlast]; rfl, hhead⟩)

theorem Neat.append {ls ks : List Lexeme} (hl : Neat ls) (hk : Neat ks)
    (h : ls.getLast? = some .plus → ks.head? ≠ some .closing) : Neat (ls ++ ks) where
  between hpair := by
    rcases pair_infix_append hpair with hpair | hpair | ⟨hlast, hhead⟩
    · exact hl.between hpair
    · exact hk.between hpair
    · exact h hlast hhead
  literals body hbody := by
    rcases List.mem_append.1 hbody with hbody | hbody
    · exact hl.literals body hbody
    · exact hk.literals body hbody

theorem neat_single {l : Lexeme} (h : ∀ body, l = .literal body → Exact body) : Neat [l] where
  between hpair := absurd hpair.length_le (Nat.not_succ_le_self 1)
  literals body hbody := h body (List.mem_singleton.1 hbody).symm

theorem head?_printed_append (p : Part) (ls : List Lexeme) :
    (printed p ++ ls).head? ≠ some .closing := by
  cases p <;> simp [printed]

theorem getLast?_printed (p : Part) : (printed p).getLast? ≠ some .plus := by
  cases p with
  | literal t | slot n => exact nofun
  | group ps =>
    rw [printed, List.getLast?_concat]
    exact nofun

mutual
theorem neat_printed : ∀ p : Part, p.solid = true → Neat (printed p)
  | .literal t, _ => neat_single fun _ hbody => Lexeme.literal.inj hbody ▸ exact_escape t
  | .slot _, _ => neat_single nofun
  | .group ps, h => by
    obtain ⟨hne, hs⟩ := Part.solid_group.1 h
    exact (neat_single (l := .opening) nofun).append (neat_printedJoined ps hne hs) nofun

/-- What is between the brackets of a group, with the closing one: a part is in front of it. -/
theorem neat_printedJoined : ∀ ps : List Part, ps ≠ [] → solidAll ps = true →
    Neat (printedJoined ps ++ [.closing])
  | [p], _, h =>
    (neat_printed p (Part.solidAll_cons.1 h).1).append (neat_single nofun)
      fun hlast => absurd hlast (getLast?_printed p)
  | p :: q :: ps, _, h => by
    obtain ⟨hp, hps⟩ := Part.solidAll_cons.1 h
    have hrest := (neat_single (l := .plus) nofun).append
      (neat_printedJoined (q :: ps) (List.cons_ne_nil _ _) hps) fun _ => by
        cases ps with
        | nil => exact head?_printed_append q _
        | cons r ps =>
          rw [printedJoined, List.append_assoc]
          exact head?_printed_append q _
    rw [printedJoined, List.append_assoc]
    exact (neat_printed p hp).append hrest fun hlast => absurd hlast (getLast?_printed p)
end

mutual
theorem plusesGrouped_printed : ∀ (p : Part) (depth : Nat) (ls : List Lexeme),
    plusesGrouped depth (printed p ++ ls) = plusesGrouped depth ls
  | .literal _, _, _ => rfl
  | .slot _, _, _ => rfl
  | .group ps, depth, ls => by
    rw [printed, List.cons_append, List.cons_append, plusesGrouped, List.append_assoc,
      plusesGrouped_printedJoined ps]
    rfl

theorem plusesGrouped_printedJoined : ∀ (ps : List Part) (depth : Nat) (ls : List Lexeme),
    plusesGrouped (depth + 1) (printedJoined ps ++ ls) = plusesGrouped (depth + 1) ls
  | [], _, _ => rfl
  | [p], depth, ls => plusesGrouped_printed p (depth + 1) ls
  | p :: q :: ps, depth, ls => by
    rw [printedJoined, List.append_assoc, plusesGrouped_printed p]
    exact plusesGrouped_printedJoined (q :: ps) depth ls
end

theorem tidy_compiledAll {ps : List Part} (h : solidAll ps = true) :
    Tidy (lexemes (compiledAll ps)) := by
  induction ps with
  | nil =>
    rw [compiledAll, lexemes]
    exact ⟨⟨fun hpair => absurd hpair.length_le (by decide),
      fun _ hbody => absurd hbody List.not_mem_nil⟩, rfl⟩
  | cons p ps ih =>
    obtain ⟨hp, hps⟩ := Part.solidAll_cons.1 h
    rw [compiledAll, lexemes_compiled]
    refine ⟨(neat_printed p hp).append (ih hps).toNeat ?_, ?_⟩
    · exact fun hlast => absurd hlast (getLast?_printed p)
    · rw [plusesGrouped_printed]
      exact (ih hps).grouped

/-! ## Tidy texts are compiled forms -/

mutual
/-- A part is spelt neatly in one way only. -/
theorem Spells.eq_compiled : ∀ {t : Text} {p : Part}, Spells t p → Neat (lexemes t) →
    t = p.compiled
  | _, _, @Spells.literal body hb, h => by
    rw [lexemes_of_append hb.lexemes_append] at h
    rw [Part.compiled, (h.literals body List.mem_cons_self).escape_unescape]
  | _, _, .slot, _ => rfl
  | _, _, .group hi, h => by
    rw [lexemes_of_append (lexemes_group hi.head?_ne hi.lexemes_append)] at h
    rw [Part.compiled, ← hi.eq_compiledJoined (h.of_infix (List.suffix_cons _ _).isInfix)]

theorem SpellsItems.eq_compiledJoined : ∀ {t : Text} {ps : List Part}, SpellsItems t ps →
    Neat (lexemes t ++ [.closing]) → t = compiledJoined ps
  | _, _, .one hp, h => by
    rw [compiledJoined, ← hp.eq_compiled (h.of_infix (List.prefix_append _ _).isInfix)]
  | _, _, .trailing hp, h => by
    rw [hp.lexemes_append, lexemes_plus, lexemes, List.append_assoc] at h
    exact absurd (List.suffix_append _ _).isInfix h.between
  | _, _, .more hp hi, h => by
    rw [hp.lexemes_append, lexemes_plus, List.append_assoc] at h
    have ht := hp.eq_compiled (h.of_infix (List.prefix_append _ _).isInfix)
    have hu := hi.eq_compiledJoined (h.of_infix
      ((List.suffix_cons _ _).trans (List.suffix_append _ _)).isInfix)
    obtain ⟨q, qs, rfl⟩ := hi.exists_cons
    rw [compiledJoined, ← ht, ← hu]
end

theorem SpellsAll.eq_compiledAll {t : Text} {ps : List Part} (h : SpellsAll t ps)
    (ht : Tidy (lexemes t)) : t = compiledAll ps := by
  induction h with
  | nil => rfl
  | @cons t u p ps hp _ ih =>
    obtain ⟨hneat, hgrouped⟩ := ht
    rw [hp.lexemes_append] at hneat
    obtain rfl := hp.eq_compiled (hneat.of_infix (List.prefix_append _ _).isInfix)
    rw [lexemes_compiled, plusesGrouped_printed] at hgrouped
    rw [compiledAll, ← ih ⟨hneat.of_infix (List.suffix_append _ _).isInfix, hgrouped⟩]
  | @plus t u p ps hp _ _ =>
    obtain ⟨hneat, hgrouped⟩ := ht
    rw [hp.lexemes_append] at hneat
    obtain rfl := hp.eq_compiled (hneat.of_infix (List.prefix_append _ _).isInfix)
    rw [lexemes_compiled, plusesGrouped_printed, lexemes_plus] at hgrouped
    cases hgrouped

/-! ## Reading and writing back -/

mutual
theorem Spells.solid : ∀ {t : Text} {p : Part}, Spells t p → p.solid = true
  | _, _, .literal _ => rfl
  | _, _, .slot => rfl
  | _, _, .group hi => by
    obtain ⟨q, qs, hqs⟩ := hi.exists_cons
    exact Part.solid_group.2 ⟨hqs ▸ List.cons_ne_nil q qs, hi.solidAll⟩

theorem SpellsItems.solidAll : ∀ {t : Text} {ps : List Part}, SpellsItems t ps →
    Part.solidAll ps = true
  | _, _, .one hp | _, _, .trailing hp => Part.solidAll_cons.2 ⟨hp.solid, rfl⟩
  | _, _, .more hp hi => Part.solidAll_cons.2 ⟨hp.solid, hi.solidAll⟩
end

theorem SpellsAll.solidAll {t : Text} {ps : List Part} (h : SpellsAll t ps) :
    Part.solidAll ps = true := by
  induction h with
  | nil => rfl
  | cons hp _ ih | plus hp _ ih => exact Part.solidAll_cons.2 ⟨hp.solid, ih⟩

theorem SpellsAll.eq_nil_or_visible {t : Text} {ps : List Part} (h : SpellsAll t ps) :
    t = [] ∨ t.isBlank = false := by
  cases h with
  | nil => exact .inl rfl
  | cons hp _ | plus hp _ => exact .inr (hp.not_blank _)

/-- What is spelt is written back as it was exactly if it is tidy. -/
theorem SpellsAll.compiledAll_eq_iff {t : Text} {ps : List Part} (h : SpellsAll t ps) :
    compiledAll ps = t ↔ Tidy (lexemes t) := by
  constructor
  · rintro rfl
    exact tidy_compiledAll h.solidAll
  · exact fun ht => (h.eq_compiledAll ht).symm

/-- **Reading and writing back is a normal form.** What is read from a text, whatever names are
given, has no empty group, and is read again from its own compiled form with its own names. This
form is the text itself exactly if the text is empty, or is not blank and tidy: there is no plus
outside groups or right before a closing bracket, and in its literals the reserved characters are
escaped and no others are. -/
theorem compiledAll_parse {names : List Text} {t : Text} {ps : List Part}
    (h : parse names t = .ok ps) :
    solidAll ps = true ∧ parse (slotsAll ps) (compiledAll ps) = .ok ps ∧
      (compiledAll ps = t ↔ t = [] ∨ t.isBlank = false ∧ Tidy (lexemes t)) := by
  obtain ⟨qs, hqs, hshape⟩ := skeleton_of_parse h
  have hcompiled : compiledAll qs = compiledAll ps := by
    rw [← Part.compiledAll_namelessAll, hshape, Part.compiledAll_namelessAll]
  have hsolid : solidAll ps = solidAll qs := by
    rw [← Part.solidAll_namelessAll, ← hshape, Part.solidAll_namelessAll]
  rw [← hcompiled]
  obtain ⟨hblank, rfl⟩ | hspelt := skeleton_eq_ok_iff.1 hqs
  · refine ⟨hsolid, ?_, ?_⟩
    · have hps := Part.namelessAll_eq_nil.1 hshape.symm
      rw [hps]
      rfl
    · rw [hblank, or_iff_left fun h => nomatch h.1]
      exact eq_comm
  · have hps : solidAll ps = true := hsolid.trans hspelt.solidAll
    refine ⟨hps, hcompiled ▸ parse_own_names hps, ?_⟩
    rw [hspelt.compiledAll_eq_iff]
    constructor
    · exact fun ht => hspelt.eq_nil_or_visible.imp_right fun hvisible => ⟨hvisible, ht⟩
    · rintro (rfl | ⟨-, ht⟩)
      · exact @tidy_compiledAll [] rfl
      · exact ht

/-- A template with a plus between its parts and one at the end of its group: it is read, and
written back without them. -/
theorem compiledAll_parse_plus :
    let t : Text := '{' :: ['a'] ++ ['}'] ++ '+' :: ('[' :: (Part.slotMark ++ ['+']) ++ [']'] ++ [])
    let ps : List Part := [.literal ['a'], .group [.slot ['A']]]
    parse [['A']] t = .ok ps ∧ solidAll ps = true ∧ parse [['A']] (compiledAll ps) = .ok ps ∧
      compiledAll ps ≠ t ∧ t.isBlank = false ∧ ¬ Tidy (lexemes t) := by
  intro t ps
  have hspelt : SpellsAll t [.literal ['a'], .group [.slot []]] :=
    .plus (.literal (.plain (by decide) (by decide) .nil)) (.cons (.group (.trailing .slot)) .nil)
  have hparse : parse [['A']] t = .ok ps := by
    rw [parse, skeleton_eq_ok_iff.2 (.inr hspelt)]
    rfl
  have hne : compiledAll ps ≠ t := by decide
  obtain ⟨hsolid, hagain, hiff⟩ := compiledAll_parse hparse
  exact ⟨hparse, hsolid, hagain, hne, rfl, fun ht => hne (hiff.2 (.inr ⟨rfl, ht⟩))⟩

end CitationStudio.Compiled
