import CitationStudio.Text.Quoted
import CitationStudio.Part.Basic

/-! Escaping and its inverse. `unescape (escape t) = t` for every text; in the other direction
only one level of backslashes is taken away. The text of a literal is read back from its
compiled form by dropping the braces and unescaping what is between them. -/

namespace CitationStudio.Part

theorem unescape_cons {c : Char} (h : c ≠ '\\') (t : Text) :
    unescape (c :: t) = c :: unescape t := by
  cases t with
  | nil => simp [unescape]
  | cons d t =>
    rw [unescape]
    intro c' t' hc _
    exact absurd hc h

theorem unescape_escape (t : Text) : unescape (escape t) = t := by
  induction t with
  | nil => rfl
  | cons c t ih =>
    simp only [escape]
    split
    · simp [unescape, ih]
    · rename_i h
      rw [unescape_cons (by rintro rfl; exact h (by decide)), ih]

structure NotLiteral where
  text : Text
  deriving Repr, DecidableEq

def NotLiteral.message (e : NotLiteral) : Text :=
  "Not a compiled literal: ".toList ++ e.text.quoted

/-- What stands between a leading and a different trailing character. -/
def between? (first last : Char) (t : Text) : Option Text :=
  match t with
  | c :: r => if c = first ∧ r.getLast? = some last then some r.dropLast else none
  | [] => none

/-- The text of a literal, from its compiled form. Braces inside are not looked at. -/
def literalText (t : Text) : Except NotLiteral Text :=
  match between? '{' '}' t with
  | some body => .ok (unescape body)
  | none => .error ⟨t⟩

theorem between?_wrap (first last : Char) (body : Text) :
    between? first last (first :: (body ++ [last])) = some body := by
  simp [between?]

theorem literalText_compiled (t : Text) : literalText (literal t).compiled = .ok t := by
  have h := between?_wrap '{' '}' (escape t)
  simp only [compiled, literalText, List.cons_append, h, unescape_escape]

end CitationStudio.Part
