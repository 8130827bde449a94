import CitationStudio.Part.Escape
import CitationStudio.Proofs.Compiled.Grammar

/-! # Where a compiled literal ends

A reader that stands at an opening brace needs no more than what follows it to find the end of the
literal: the first closing brace that no backslash keeps from closing. In a compiled literal this is
its own last brace, because every brace and every backslash of the text has a backslash of its own.
What a literal says can be found in two ways, by reading it and by taking its braces away; they
agree on each text that a literal takes up. -/

namespace CitationStudio.Compiled

/-- Reads the literal that a text begins with: what it says, and what comes after it. -/
def readLiteral : Text → Option (Text × Text)
  | '{' :: t =>
    match literalBody t with
    | .ok (body, rest) => some (Part.unescape body, rest)
    | .error _ => none
  | _ => none

def IsLiteral (c : Text) : Prop := ∃ body, Body body ∧ c = '{' :: body ++ ['}']

theorem readLiteral_brace (t : Text) : readLiteral ('{' :: t) =
    match literalBody t with
    | .ok (body, rest) => some (Part.unescape body, rest)
    | .error _ => none := rfl

theorem readLiteral_body {body : Text} (h : Body body) (rest : Text) :
    readLiteral ('{' :: (body ++ '}' :: rest)) = some (Part.unescape body, rest) := by
  rw [readLiteral_brace, h.literalBody rest]

/-- A text begins with a literal exactly if it begins with a body between braces. -/
theorem readLiteral_eq_some_iff {c t rest : Text} : readLiteral c = some (t, rest) ↔
    ∃ body, Body body ∧ c = '{' :: (body ++ '}' :: rest) ∧ t = Part.unescape body := by
  constructor
  · intro h
    unfold readLiteral at h
    split at h
    · split at h
      · rename_i body r hb
        cases h
        exact ⟨body, body_of_literalBody hb, by rw [literalBody_append hb], rfl⟩
      · cases h
    · cases h
  · intro ⟨body, hb, hc, ht⟩
    rw [hc, ht, readLiteral_body hb]

theorem body_escape (t : Text) : Body (Part.escape t) :=
  body_of_literalBody (literalBody_escape t [])

theorem readLiteral_compiled (t rest : Text) :
    readLiteral ((Part.literal t).compiled ++ rest) = some (t, rest) := by
  rw [Part.compiled, List.cons_append, List.cons_append, List.append_assoc, List.singleton_append,
    readLiteral_body (body_escape t), Part.unescape_escape]

theorem literalText_braces (body : Text) :
    Part.literalText ('{' :: body ++ ['}']) = .ok (Part.unescape body) := by
  rw [Part.literalText, List.cons_append, Part.between?_wrap]

/-- A literal that takes up a text says what is between its braces. -/
theorem readLiteral_whole_iff {c t : Text} :
    readLiteral c = some (t, []) ↔ IsLiteral c ∧ Part.literalText c = .ok t := by
  rw [readLiteral_eq_some_iff]
  constructor
  · intro ⟨body, hb, hc, ht⟩
    subst hc ht
    exact ⟨⟨body, hb, rfl⟩, literalText_braces body⟩
  · intro ⟨⟨body, hb, hc⟩, ht⟩
    subst hc
    rw [literalText_braces] at ht
    exact ⟨body, hb, rfl, (Except.ok.inj ht).symm⟩

theorem lexemes_unclosed {t : Text} {dangling : Bool} (h : literalBody t = .error dangling) :
    lexemes ('{' :: t) = [.unclosed (t.length + 1) dangling] := by
  rw [lexemes, if_pos rfl]
  · split
    · rename_i body rest hb
      cases h.symm.trans hb
    · rename_i d hd
      cases h.symm.trans hd
      rfl
  · intro u hc
    cases hc

namespace Progress

variable {s : Progress} (hs : s.Ready) (pos : Nat)
include hs

/-- A reader that comes to a literal takes it in and goes on right behind it. -/
theorem run_readLiteral {c t rest : Text} (h : readLiteral c = some (t, rest)) :
    s.run pos (lexemes c) =
      (s.push (.literal t)).run (pos + (c.length - rest.length)) (lexemes rest) := by
  obtain ⟨body, hb, hc, ht⟩ := readLiteral_eq_some_iff.1 h
  have hspelt := run_spelt (Spells.literal hb) pos rest hs
  rw [List.cons_append, List.cons_append, List.append_assoc, List.singleton_append, ← hc, ← ht]
    at hspelt
  have hwidth : ('{' :: (body ++ ['}'])).length = c.length - rest.length := by
    rw [hc]
    simp only [List.length_cons, List.length_append, List.length_nil]
    omega
  rw [hspelt, hwidth]

theorem step_unclosed (length : Nat) (dangling : Bool) : s.step pos (.unclosed length dangling) =
    .error (.unclosedLiteral, pos + length + if dangling then 1 else 0) := by
  show (if (s.ended && !s.outer.isEmpty) = true then _ else _) = _
  rw [hs.blocked, if_neg Bool.false_ne_true]

theorem run_unclosed {t : Text} (h : readLiteral ('{' :: t) = none) :
    ∃ offset, s.run pos (lexemes ('{' :: t)) = .error (.unclosedLiteral, offset) := by
  rw [readLiteral_brace] at h
  cases hb : literalBody t with
  | ok found =>
    rw [hb] at h
    cases h
  | error dangling =>
    rw [lexemes_unclosed hb, run, step_unclosed hs]
    exact ⟨_, rfl⟩

end Progress

/-- **A literal says where it ends.** Whatever comes after a compiled literal, reading it gives back
its text and stops right behind it. A text is taken up by one literal exactly if it is a body
between braces, and what the literal says is then what is found by taking the braces away. The
reader of templates reads literals so wherever a part may come next. -/
theorem literal_self_delimiting {s : Progress} (hs : s.Ready) (pos : Nat) :
    (∀ t rest, readLiteral ((Part.literal t).compiled ++ rest) = some (t, rest)) ∧
      (∀ c t, readLiteral c = some (t, []) ↔ IsLiteral c ∧ Part.literalText c = .ok t) ∧
      (∀ c t rest, readLiteral c = some (t, rest) → s.run pos (lexemes c) =
        (s.push (.literal t)).run (pos + (c.length - rest.length)) (lexemes rest)) ∧
      ∀ t, readLiteral ('{' :: t) = none →
        ∃ offset, s.run pos (lexemes ('{' :: t)) = .error (.unclosedLiteral, offset) :=
  ⟨readLiteral_compiled, fun _ _ => readLiteral_whole_iff,
    fun _ _ _ h => Progress.run_readLiteral hs pos h, fun _ h => Progress.run_unclosed hs pos h⟩

/-- A group in which a slot and a plus have been read, then a literal with a backslash before a
brace, and more braces behind it. -/
theorem literal_self_delimiting_in_group :
    let s : Progress := ⟨[[]], [.slot []], false⟩
    let t : Text := ['\\', '}']
    let c : Text := ['{', '\\', '\\', '\\', '}', '}']
    s.Ready ∧ (Part.literal t).compiled = c ∧ readLiteral (c ++ ['}', ']']) = some (t, ['}', ']']) ∧
      Part.literalText c = .ok t ∧ s.run 5 (lexemes (c ++ ['+', ']'])) =
        (s.push (.literal t)).run 11 (lexemes ['+', ']']) := by
  intro s t c
  have hs : s.Ready := .inl rfl
  have hc : (Part.literal t).compiled = c := by decide
  obtain ⟨hcompiled, hwhole, hrun, -⟩ := literal_self_delimiting hs 5
  have hread (rest : Text) : readLiteral (c ++ rest) = some (t, rest) := by
    rw [← hc]
    exact hcompiled t rest
  have hbraces : IsLiteral c ∧ Part.literalText c = .ok t := (hwhole c t).1 (hread [])
  exact ⟨hs, hc, hread _, hbraces.2, hrun _ _ _ (hread _)⟩

end CitationStudio.Compiled
