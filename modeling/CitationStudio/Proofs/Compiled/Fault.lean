import CitationStudio.Proofs.Compiled.Literal
import CitationStudio.Proofs.Document.Readable

/-! # Where a fault is

A fault tells where the reader stood: at a character that begins no part or joins none, right
behind the bracket of an empty group, or at the end of the text. All these places are in the text.
But inside a literal a backslash is taken together with the character after it, and where the text
ends there is no such character: the reader is then one past the end. So it is with an unclosed
literal if the text ends in an odd number of backslashes, and never else. -/

namespace CitationStudio.Compiled

/-- Where a problem that a text has is met. -/
def Problem.StandsAt (t : Text) (offset : Nat) : Problem → Prop
  | .unexpected c => t[offset]? = some c
  | .unclosedLiteral => offset = t.length + backslashesAtEnd t % 2
  | .unclosedGroup => offset = t.length
  | .missingJoin => offset ≤ t.length ∧ t[offset]? ≠ some '+' ∧ t[offset]? ≠ some ']'
  | .emptyGroup => ∃ before, t[before]? = some ']' ∧ offset = before + 1

/-! ## Lexemes and their characters -/

/-- The text begins with the characters of the lexeme, and the rest comes after them. -/
inductive Lexeme.Leads : Lexeme → Text → Text → Prop
  | literal {t body rest : Text} : literalBody t = .ok (body, rest) →
      Leads (.literal body) ('{' :: t) rest
  | unclosed {t : Text} {dangling : Bool} : literalBody t = .error dangling →
      Leads (.unclosed (t.length + 1) dangling) ('{' :: t) []
  | slot (t : Text) : Leads .slot (Part.slotMark ++ t) t
  | opening (t : Text) : Leads .opening ('[' :: t) t
  | closing (t : Text) : Leads .closing (']' :: t) t
  | plus (t : Text) : Leads .plus ('+' :: t) t
  | stray {c : Char} (t : Text) : c ≠ ']' → c ≠ '+' → Leads (.stray c) (c :: t) t

/-- A text that is not empty is led by its first lexeme, and the others are those of the rest. -/
theorem lexemes_cases (t : Text) :
    t = [] ∨ ∃ l rest, l.Leads t rest ∧ lexemes t = l :: lexemes rest := by
  fun_cases lexemes t with
  | case1 => exact .inl rfl
  | case2 t => exact .inr ⟨_, t, .slot t, rfl⟩
  | case3 t body rest hb => exact .inr ⟨_, rest, .literal hb, rfl⟩
  | case4 t dangling hb => exact .inr ⟨_, [], .unclosed hb, by rw [lexemes]⟩
  | case5 t => exact .inr ⟨_, t, .opening t, rfl⟩
  | case6 t => exact .inr ⟨_, t, .closing t, rfl⟩
  | case7 t => exact .inr ⟨_, t, .plus t, rfl⟩
  | case8 c t _ _ _ hclosing hplus => exact .inr ⟨_, t, .stray t hclosing hplus, rfl⟩

namespace Lexeme.Leads

variable {l : Lexeme} {t rest : Text}

theorem exists_append (h : l.Leads t rest) : ∃ u, t = u ++ rest ∧ u.length = l.width := by
  cases h with
  | @literal t body rest hb =>
    refine ⟨'{' :: body ++ ['}'], ?_, ?_⟩
    · rw [literalBody_append hb]
      simp
    · simp [width]
  | @unclosed t dangling hb => exact ⟨'{' :: t, (List.append_nil _).symm, rfl⟩
  | slot t => exact ⟨Part.slotMark, rfl, rfl⟩
  | opening t | closing t | plus t | stray t => exact ⟨[_], rfl, rfl⟩

theorem head?_ne (h : l.Leads t rest) (hplus : l ≠ .plus) (hclosing : l ≠ .closing) :
    t.head? ≠ some '+' ∧ t.head? ≠ some ']' := by
  cases h with
  | literal hb | unclosed hb => simp
  | slot t | opening t => simp [Part.slotMark]
  | closing t => exact absurd rfl hclosing
  | plus t => exact absurd rfl hplus
  | stray t h1 h2 => simp [h1, h2]

end Lexeme.Leads

/-! ## Faults -/

namespace Progress

theorem step_part_error {s : Progress} {pos n : Nat} {l : Lexeme} {p : Problem}
    {r : Except (Problem × Nat) Progress}
    (hl : s.step pos l = if (s.ended && !s.outer.isEmpty) = true
      then .error (.missingJoin, pos) else r) (h : s.step pos l = .error (p, n)) :
    (p = .missingJoin ∧ n = pos) ∨ r = .error (p, n) := by
  rw [hl] at h
  split at h
  · cases h
    exact .inl ⟨rfl, rfl⟩
  · exact .inr h

/-- Why a lexeme is not taken, and where the reader is then. -/
theorem step_error_cases {s : Progress} {pos n : Nat} {l : Lexeme} {p : Problem}
    (h : s.step pos l = .error (p, n)) :
    (p = .missingJoin ∧ n = pos ∧ l ≠ .plus ∧ l ≠ .closing) ∨
    (l = .plus ∧ p = .unexpected '+' ∧ n = pos) ∨
    (l = .closing ∧ p = .unexpected ']' ∧ n = pos) ∨
    (l = .closing ∧ p = .emptyGroup ∧ n = pos + 1) ∨
    (∃ c, l = .stray c ∧ p = .unexpected c ∧ n = pos) ∨
    ∃ length dangling, l = .unclosed length dangling ∧ p = .unclosedLiteral ∧
      n = pos + length + if dangling then 1 else 0 := by
  cases l with
  | plus =>
    change (if s.ended = true then Except.ok _ else Except.error _) = _ at h
    split at h
    · cases h
    · cases h
      exact .inr (.inl ⟨rfl, rfl, rfl⟩)
  | closing =>
    obtain ⟨_ | ⟨before, outer⟩, items, ended⟩ := s
    · cases h
      exact .inr (.inr (.inl ⟨rfl, rfl, rfl⟩))
    · change (if items.isEmpty = true then Except.error _ else Except.ok _) = _ at h
      split at h
      · cases h
        exact .inr (.inr (.inr (.inl ⟨rfl, rfl, rfl⟩)))
      · cases h
  | literal body | slot | opening =>
    rcases step_part_error rfl h with ⟨hp, hn⟩ | hr
    · exact .inl ⟨hp, hn, nofun, nofun⟩
    · cases hr
  | unclosed length dangling =>
    rcases step_part_error rfl h with ⟨hp, hn⟩ | hr
    · exact .inl ⟨hp, hn, nofun, nofun⟩
    · cases hr
      exact .inr (.inr (.inr (.inr (.inr ⟨length, dangling, rfl, rfl, rfl⟩))))
  | stray c =>
    rcases step_part_error rfl h with ⟨hp, hn⟩ | hr
    · exact .inl ⟨hp, hn, nofun, nofun⟩
    · cases hr
      exact .inr (.inr (.inr (.inr (.inl ⟨c, rfl, rfl, rfl⟩))))

/-- A lexeme that is not taken is reported where its problem is. -/
theorem step_stands {s : Progress} {u t rest : Text} {l : Lexeme} {p : Problem} {n : Nat}
    (hl : l.Leads t rest) (h : s.step u.length l = .error (p, n)) : p.StandsAt (u ++ t) n := by
  have hhead : (u ++ t)[u.length]? = t.head? := by
    rw [List.getElem?_append_right (Nat.le_refl _), Nat.sub_self, List.head?_eq_getElem?]
  obtain ⟨rfl, rfl, hplus, hclosing⟩ | ⟨rfl, rfl, rfl⟩ | ⟨rfl, rfl, rfl⟩ | ⟨rfl, rfl, rfl⟩ |
    ⟨c, rfl, rfl, rfl⟩ | ⟨length, dangling, rfl, rfl, rfl⟩ := step_error_cases h
  · have hne := hl.head?_ne hplus hclosing
    rw [← hhead] at hne
    refine ⟨?_, hne⟩
    rw [List.length_append]
    exact Nat.le_add_right _ _
  · cases hl
    exact hhead
  · cases hl
    exact hhead
  · cases hl
    exact ⟨u.length, hhead, rfl⟩
  · cases hl
    exact hhead
  · cases hl with
    | @unclosed t dangling hb =>
      show _ = (u ++ '{' :: t).length + backslashesAtEnd (u ++ '{' :: t) % 2
      rw [backslashesAtEnd_append (by decide), backslashesAtEnd_of_error hb, List.length_append]
      rfl

theorem finish_stands {s : Progress} {t : Text} {p : Problem} {n : Nat}
    (h : s.finish t.length = .error (p, n)) : p.StandsAt t n := by
  unfold finish at h
  split at h
  · cases h
  · cases h
    cases s.ended with
    | true => simp [Problem.StandsAt]
    | false => rfl

/-- A run that fails, at whatever lexeme, reports where its problem is. -/
theorem run_stands {ls : List Lexeme} {s : Progress} {u t : Text} {p : Problem} {n : Nat}
    (ht : lexemes t = ls) (h : s.run u.length ls = .error (p, n)) : p.StandsAt (u ++ t) n := by
  induction ls generalizing s u t with
  | nil =>
    rcases lexemes_cases t with ht' | ⟨l, rest, -, ht'⟩
    · rw [ht', List.append_nil]
      exact finish_stands h
    · cases ht'.symm.trans ht
  | cons l ls ih =>
    rcases lexemes_cases t with ht' | ⟨l', rest, hl, ht'⟩
    · rw [ht', lexemes] at ht
      cases ht
    · cases ht'.symm.trans ht
      rw [run] at h
      split at h
      · -- the lexeme is taken, and the reader is behind its characters
        rename_i s' _
        obtain ⟨v, rfl, hv⟩ := hl.exists_append
        rw [← hv, ← List.length_append] at h
        rw [← List.append_assoc]
        exact ih rfl h
      · rename_i e hstep
        cases h
        exact step_stands hl hstep

end Progress

theorem parse_stands {names : List Text} {t : Text} {f : Fault} (h : parse names t = .error f) :
    f.problem.StandsAt t f.offset ∧ f.source = t := by
  unfold parse skeleton at h
  split at h
  · cases h
  · rename_i fault hskeleton
    cases h
    split at hskeleton
    · cases hskeleton
    · split at hskeleton
      · cases hskeleton
      · rename_i problem offset hrun
        cases hskeleton
        exact ⟨Progress.run_stands (u := []) rfl hrun, rfl⟩

/-- Only a backslash that is left over is past the end. -/
theorem Problem.StandsAt.le_length_iff {t : Text} {p : Problem} {n : Nat} (h : p.StandsAt t n) :
    n ≤ t.length ↔ ¬ (p = .unclosedLiteral ∧ backslashesAtEnd t % 2 = 1) := by
  cases p with
  | unexpected c =>
    obtain ⟨hlt, -⟩ := List.getElem?_eq_some_iff.1 h
    simp [Nat.le_of_lt hlt]
  | unclosedLiteral =>
    have hn : n = t.length + backslashesAtEnd t % 2 := h
    simp only [true_and]
    omega
  | unclosedGroup =>
    have hn : n = t.length := h
    simp [hn]
  | missingJoin => simp [h.1]
  | emptyGroup =>
    obtain ⟨before, hb, rfl⟩ := h
    obtain ⟨hlt, -⟩ := List.getElem?_eq_some_iff.1 hb
    simp only [reduceCtorEq, false_and, not_false_eq_true, iff_true]
    exact hlt

theorem Problem.StandsAt.le_succ {t : Text} {p : Problem} {n : Nat} (h : p.StandsAt t n) :
    n ≤ t.length + 1 := by
  by_cases hlast : p = .unclosedLiteral ∧ backslashesAtEnd t % 2 = 1
  · obtain ⟨rfl, hodd⟩ := hlast
    have hn : n = t.length + backslashesAtEnd t % 2 := h
    omega
  · exact Nat.le_succ_of_le (h.le_length_iff.2 hlast)

/-- **A fault is in the text, unless a backslash is left over.** The fault of a text that is not
read stands where its problem is, at most one past the end of the text. It is in the text or at its
end exactly if it is not an unclosed literal of a text that ends in an odd number of backslashes. -/
theorem fault_offset_iff {names : List Text} {t : Text} {f : Fault}
    (h : parse names t = .error f) :
    f.source = t ∧ f.problem.StandsAt t f.offset ∧ f.offset ≤ t.length + 1 ∧
      (f.offset ≤ t.length ↔ ¬ (f.problem = .unclosedLiteral ∧ backslashesAtEnd t % 2 = 1)) := by
  obtain ⟨hstands, hsource⟩ := parse_stands h
  exact ⟨hsource, hstands, hstands.le_succ, hstands.le_length_iff⟩

/-- The literal behind a slot ends in two backslashes, and then in one. -/
theorem fault_offset_iff_backslashes :
    let t : Text := Part.slotMark ++ ['{', '\\', '\\']
    let u : Text := Part.slotMark ++ ['{', '\\']
    parse [] t = .error ⟨.unclosedLiteral, 7, t⟩ ∧ 7 ≤ t.length ∧
      parse [] u = .error ⟨.unclosedLiteral, 7, u⟩ ∧ ¬ 7 ≤ u.length := by
  intro t u
  have ht : lexemes t = [.slot, .unclosed 3 false] := by
    rw [lexemes_slotMark, lexemes_unclosed (show literalBody _ = .error false from rfl)]
    rfl
  have hu : lexemes u = [.slot, .unclosed 2 true] := by
    rw [lexemes_slotMark, lexemes_unclosed (show literalBody _ = .error true from rfl)]
    rfl
  have hparse : parse [] t = .error ⟨.unclosedLiteral, 7, t⟩ := by
    rw [parse, skeleton, ht]
    rfl
  have hparse' : parse [] u = .error ⟨.unclosedLiteral, 7, u⟩ := by
    rw [parse, skeleton, hu]
    rfl
  obtain ⟨-, -, -, hle⟩ := fault_offset_iff hparse
  obtain ⟨-, -, -, hle'⟩ := fault_offset_iff hparse'
  exact ⟨hparse, hle.2 (by decide), hparse', fun h => hle'.1 h (by decide)⟩

/-- A brace and a backslash. -/
theorem not_fault_offset : ¬ ∀ (names : List Text) (t : Text) (f : Fault),
    parse names t = .error f → f.offset ≤ t.length := by
  intro h
  have hlexemes : lexemes ['{', '\\'] = [.unclosed 2 true] := lexemes_unclosed rfl
  have hparse : parse [] ['{', '\\'] = .error ⟨.unclosedLiteral, 3, ['{', '\\']⟩ := by
    rw [parse, skeleton, hlexemes]
    rfl
  exact absurd (h _ _ _ hparse) (by decide)

end CitationStudio.Compiled
