import CitationStudio.Part.Basic

/-! The compiled form of a template, cut into lexemes: literals between braces, slot marks,
the brackets and the plus of groups. Every text can be cut. A character that starts no lexeme
is `stray`, and a literal without an end is `unclosed`; what to say about them is up to the
reader of the lexemes. -/

namespace CitationStudio.Compiled

inductive Lexeme where
  | literal (body : Text)
  | unclosed (length : Nat) (dangling : Bool)
  | slot
  | opening
  | closing
  | plus
  | stray (c : Char)
  deriving Repr, DecidableEq, Inhabited

/-- Splits what follows an opening brace at the brace that closes the literal. A backslash
keeps the character after it from closing anything. The failure tells whether the text ended
in such a backslash, with no character after it. -/
def literalBody : Text → Except Bool (Text × Text)
  | [] => .error false
  | ['\\'] => .error true
  | '\\' :: c :: t =>
    match literalBody t with
    | .ok (body, rest) => .ok ('\\' :: c :: body, rest)
    | .error dangling => .error dangling
  | c :: t =>
    if c = '}' then .ok ([], t)
    else match literalBody t with
      | .ok (body, rest) => .ok (c :: body, rest)
      | .error dangling => .error dangling

/-- Nothing is lost: body, closing brace and rest make up the text. -/
theorem literalBody_append {t body rest : Text} (h : literalBody t = .ok (body, rest)) :
    t = body ++ '}' :: rest := by
  fun_induction literalBody t generalizing body rest with
  | case1 => cases h
  | case2 => cases h
  | case3 c t b r ht ih =>
    cases h
    simpa using ih ht
  | case4 => cases h
  | case5 => cases h; rfl
  | case6 c t _ _ hc b r ht ih =>
    cases h
    simpa using ih ht
  | case7 => cases h

theorem literalBody_length {t body rest : Text} (h : literalBody t = .ok (body, rest)) :
    rest.length < t.length := by
  simp only [literalBody_append h, List.length_append, List.length_cons]
  omega

def lexemes : Text → List Lexeme
  | [] => []
  | '[' :: '%' :: 's' :: ']' :: t => .slot :: lexemes t
  | c :: t =>
    if c = '{' then
      match _h : literalBody t with
      | .ok (body, rest) => .literal body :: lexemes rest
      | .error dangling => [.unclosed (t.length + 1) dangling]
    else if c = '[' then .opening :: lexemes t
    else if c = ']' then .closing :: lexemes t
    else if c = '+' then .plus :: lexemes t
    else .stray c :: lexemes t
  termination_by t => t.length
  decreasing_by
    · simp only [List.length_cons]; omega
    · have := literalBody_length _h
      simp only [List.length_cons]
      omega
    all_goals simp

def Lexeme.width : Lexeme → Nat
  | .literal body => body.length + 2
  | .unclosed length _ => length
  | .slot => 4
  | .opening | .closing | .plus | .stray _ => 1

end CitationStudio.Compiled
