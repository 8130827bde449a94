import CitationStudio.Text.Basic

/-! A folded text holds tokens `[*]`, each standing for a piece of text that is folded away. The
first token stands for the first piece, and so on; a token without a piece stands for itself.
Tokens are found from left to right and do not overlap. -/

namespace CitationStudio.Fold

def token : Text := ['[', '*', ']']

/-- The offsets at which the tokens of a text start, its first character being at `offset`. -/
def tokensFrom (offset : Nat) : Text → List Nat
  | '[' :: '*' :: ']' :: t => offset :: tokensFrom (offset + 3) t
  | _ :: t => tokensFrom (offset + 1) t
  | [] => []

def tokens (t : Text) : List Nat := tokensFrom 0 t

def tokenCount (t : Text) : Nat := (tokens t).length

def expand : Text → List Text → Text
  | '[' :: '*' :: ']' :: t, p :: ps => p ++ expand t ps
  | '[' :: '*' :: ']' :: t, [] => token ++ expand t []
  | c :: t, ps => c :: expand t ps
  | [], _ => []

/-- For each offset of the text, its end included, the offset it has in the expanded text, whose
first character is at `length`. Inside a token with a piece it is where the piece starts. -/
def offsetsFrom (length : Nat) : Text → List Text → List Nat
  | '[' :: '*' :: ']' :: t, p :: ps =>
    length :: length :: length :: offsetsFrom (length + p.length) t ps
  | '[' :: '*' :: ']' :: t, [] =>
    length :: (length + 1) :: (length + 2) :: offsetsFrom (length + 3) t []
  | _ :: t, ps => length :: offsetsFrom (length + 1) t ps
  | [], _ => [length]

def offsets (t : Text) (pieces : List Text) : List Nat := offsetsFrom 0 t pieces

theorem offsetsFrom_length (length : Nat) (t : Text) (pieces : List Text) :
    (offsetsFrom length t pieces).length = t.length + 1 := by
  fun_induction offsetsFrom length t pieces with
  | case1 _ _ _ _ ih => simp [ih]
  | case2 _ _ ih => simp [ih]
  | case3 _ _ _ _ _ _ ih => simp [ih]
  | case4 => rfl

theorem offsetsFrom_getLast? (length : Nat) (t : Text) (pieces : List Text) :
    (offsetsFrom length t pieces).getLast? = some (length + (expand t pieces).length) := by
  fun_induction offsetsFrom length t pieces with
  | case1 length t p ps ih =>
    simp [List.getLast?_cons, ih, expand, Nat.add_assoc]
  | case2 length t ih =>
    simp [List.getLast?_cons, ih, expand, token]
    omega
  | case3 length c t ps _ _ ih =>
    rw [List.getLast?_cons, ih, expand]
    · simp [Nat.add_assoc, Nat.add_comm]
    all_goals assumption
  | case4 => simp [expand]

end CitationStudio.Fold
