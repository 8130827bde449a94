import CitationStudio.Citation.Run
import CitationStudio.Part.Basic

/-! The syntax authors write citations in: `[Author], [Year].` A bracketed span is a slot, all
other text is literal. Brackets nest, and a span ends where as many have closed as have opened;
a bracket that is never closed is literal text, with all that follows it. Notes in parentheses
inside a span are not part of the slot's name. -/

namespace CitationStudio.Citation

inductive Chunk where
  | bracketed (inside : Text)
  | plain (text : Text)
  | unclosed (text : Text)
  deriving Repr, DecidableEq, Inhabited

/-- The text a chunk was cut from. -/
def Chunk.text : Chunk → Text
  | bracketed inside => '[' :: inside ++ [']']
  | plain t => t
  | unclosed t => t

/-- Splits the text after an opening bracket at the bracket that closes it, when `depth` more
brackets are open inside. -/
def closeBracket (depth : Nat) : Text → Option (Text × Text)
  | [] => none
  | c :: t =>
    if c = ']' then
      match depth with
      | 0 => some ([], t)
      | depth + 1 => (closeBracket depth t).map fun (inside, rest) => (c :: inside, rest)
    else
      (closeBracket (if c = '[' then depth + 1 else depth) t).map
        fun (inside, rest) => (c :: inside, rest)

theorem closeBracket_append {depth : Nat} {t inside rest : Text}
    (h : closeBracket depth t = some (inside, rest)) : t = inside ++ ']' :: rest := by
  induction t generalizing depth inside rest with
  | nil => cases h
  | cons c t ih =>
    simp only [closeBracket] at h
    split at h
    · rename_i hc
      subst hc
      split at h
      · cases h; rfl
      · obtain ⟨⟨i, r⟩, hi, he⟩ := Option.map_eq_some_iff.1 h
        cases he
        simpa using ih hi
    · obtain ⟨⟨i, r⟩, hi, he⟩ := Option.map_eq_some_iff.1 h
      cases he
      simpa using ih hi

theorem closeBracket_length {depth : Nat} {t inside rest : Text}
    (h : closeBracket depth t = some (inside, rest)) : rest.length < t.length := by
  simp only [closeBracket_append h, List.length_append, List.length_cons]
  omega

def chunks : Text → List Chunk
  | [] => []
  | c :: t =>
    if c = '[' then
      match _h : closeBracket 0 t with
      | some (inside, rest) => .bracketed inside :: chunks rest
      | none => [.unclosed (c :: t)]
    else .plain (c :: t.takeWhile (· ≠ '[')) :: chunks (t.dropWhile (· ≠ '['))
  termination_by t => t.length
  decreasing_by
    · have := closeBracket_length _h
      simp only [List.length_cons]
      omega
    · have := (List.dropWhile_suffix (· ≠ '[') (l := t)).length_le
      simp only [List.length_cons]
      omega

/-- Nothing is lost by cutting. -/
theorem flatMap_chunks (t : Text) : (chunks t).flatMap Chunk.text = t := by
  fun_induction chunks t with
  | case1 => rfl
  | case2 t inside rest h ih =>
    simp [Chunk.text, ih, closeBracket_append h]
  | case3 => simp [Chunk.text]
  | case4 c t hc ih =>
    rw [List.flatMap_cons, ih, Chunk.text, List.cons_append, List.takeWhile_append_dropWhile]

/-- Takes out every note in parentheses: from an opening one to the first closing one after
it. Without a closing one there is no note. -/
def dropNotes : Text → Text
  | [] => []
  | c :: t =>
    if c = '(' then
      match _h : t.dropWhile (· ≠ ')') with
      | _ :: rest => dropNotes rest
      | [] => c :: t
    else c :: dropNotes t
  termination_by t => t.length
  decreasing_by
    · have h := (List.dropWhile_suffix (· ≠ ')') (l := t)).length_le
      rw [_h] at h
      simp only [List.length_cons] at h ⊢
      omega
    · simp

/-- The name a bracketed span gives to its slot. -/
def slotName (inside : Text) : Text := (dropNotes inside).strip

inductive Token where
  | slot (name : Text)
  | literal (text : Text)
  deriving Repr, DecidableEq, Inhabited

def Chunk.tokens : Chunk → List Token
  | .bracketed inside => [.slot (slotName inside)]
  | .plain t => (literalRuns t).map .literal
  | .unclosed t => (literalRuns t).map .literal

def tokens (t : Text) : List Token := (chunks t).flatMap Chunk.tokens

def Token.part : Token → Part
  | .slot name => .slot name
  | .literal t => .literal t

/-- The parts of a citation. A blank text has none. -/
def parts (t : Text) : List Part := if t.isBlank then [] else (tokens t).map Token.part

end CitationStudio.Citation
