import CitationStudio.Compiled.Reader
import CitationStudio.Proofs.Part.Shape

/-! # The lexemes of printed parts

What a compiled part is cut into, whatever text comes after it. An escaped literal ends at its
own brace, and a group never looks like a slot mark, because what follows its bracket opens a
part or closes the group. -/

namespace CitationStudio.Compiled

open Part (escape isReserved)

mutual
def printed : Part → List Lexeme
  | .literal t => [.literal (escape t)]
  | .slot _ => [.slot]
  | .group ps => .opening :: printedJoined ps ++ [.closing]

/-- The parts of a group, with a plus between neighbours. -/
def printedJoined : List Part → List Lexeme
  | [] => []
  | [p] => printed p
  | p :: q :: ps => printed p ++ .plus :: printedJoined (q :: ps)
end

def printedAll (ps : List Part) : List Lexeme := ps.flatMap printed

/-! ## Literals -/

theorem literalBody_plain {c : Char} (h1 : c ≠ '\\') (h2 : c ≠ '}') (t : Text) :
    literalBody (c :: t) = (literalBody t).map fun (body, rest) => (c :: body, rest) := by
  rw [literalBody, if_neg h2]
  · cases literalBody t <;> rfl
  · intro hc; exact absurd hc h1
  · intro d u hc; exact absurd hc h1

/-- The body of a printed literal is closed by its own brace and by no other. -/
theorem literalBody_escape (t rest : Text) :
    literalBody (escape t ++ '}' :: rest) = .ok (escape t, rest) := by
  induction t with
  | nil => simp [escape, literalBody]
  | cons c t ih =>
    rw [escape]
    split
    · rw [List.cons_append, List.cons_append, literalBody, ih]
    · rename_i hc
      have h1 : c ≠ '\\' := by rintro rfl; exact hc (by decide)
      have h2 : c ≠ '}' := by rintro rfl; exact hc (by decide)
      rw [List.cons_append, literalBody_plain h1 h2, ih]
      rfl

/-! ## Cutting -/

theorem lexemes_slotMark (t : Text) : lexemes (Part.slotMark ++ t) = .slot :: lexemes t := by
  rw [Part.slotMark]
  simp only [List.cons_append, List.nil_append]
  rw [lexemes]

theorem lexemes_closing (t : Text) : lexemes (']' :: t) = .closing :: lexemes t := by
  rw [lexemes] <;> simp

theorem lexemes_plus (t : Text) : lexemes ('+' :: t) = .plus :: lexemes t := by
  rw [lexemes] <;> simp

/-- A bracket is no slot mark unless a percent sign follows it. -/
theorem lexemes_opening {t : Text} (h : t.head? ≠ some '%') :
    lexemes ('[' :: t) = .opening :: lexemes t := by
  rw [lexemes]
  · simp
  · rintro u - rfl
    simp at h

theorem lexemes_literal {t body rest : Text} (h : literalBody t = .ok (body, rest)) :
    lexemes ('{' :: t) = .literal body :: lexemes rest := by
  rw [lexemes, if_pos rfl]
  · split
    · rename_i b r hb
      cases h.symm.trans hb
      rfl
    · rename_i d hd
      cases h.symm.trans hd
  · rintro u hc -
    cases hc

theorem head?_compiledJoined (ps : List Part) (t : Text) :
    (Part.compiledJoined ps ++ ']' :: t).head? ≠ some '%' := by
  have hp (p : Part) (u : Text) : (p.compiled ++ u).head? ≠ some '%' := by
    cases hc : p.compiled with
    | nil => have h := Part.compiled_head p; simp [hc] at h
    | cons c v =>
      have h := Part.compiled_head p
      rw [hc, List.head?_cons, Option.some.injEq, Option.some.injEq] at h
      rcases h with rfl | rfl <;> simp
  match ps with
  | [] => simp [Part.compiledJoined]
  | [p] => exact hp p _
  | p :: q :: ps =>
    rw [Part.compiledJoined, List.append_assoc]
    exact hp p _

mutual
/-- A compiled part is cut into its lexemes, and the cutting goes on right behind it. -/
theorem lexemes_compiled : ∀ (p : Part) (t : Text),
    lexemes (p.compiled ++ t) = printed p ++ lexemes t
  | .literal s, t => by
    simp only [Part.compiled, List.cons_append, List.append_assoc, List.nil_append]
    exact lexemes_literal (literalBody_escape s t)
  | .slot _, t => lexemes_slotMark t
  | .group ps, t => by
    simp only [Part.compiled, printed, List.cons_append, List.append_assoc, List.nil_append]
    rw [lexemes_opening (head?_compiledJoined ps t), lexemes_compiledJoined ps,
      lexemes_closing]

theorem lexemes_compiledJoined : ∀ (ps : List Part) (t : Text),
    lexemes (Part.compiledJoined ps ++ t) = printedJoined ps ++ lexemes t
  | [], _ => rfl
  | [p], t => lexemes_compiled p t
  | p :: q :: ps, t => by
    simp only [Part.compiledJoined, printedJoined, List.append_assoc, List.cons_append]
    rw [lexemes_compiled p, lexemes_plus, lexemes_compiledJoined (q :: ps)]
end

theorem lexemes_compiledAll (ps : List Part) : lexemes (Part.compiledAll ps) = printedAll ps := by
  induction ps with
  | nil => simp [Part.compiledAll, lexemes, printedAll]
  | cons p ps ih => rw [Part.compiledAll, lexemes_compiled, ih]; rfl

end CitationStudio.Compiled
