import CitationStudio.Citation.Reader
import CitationStudio.Proofs.Citation.Runs

/-! # How a citation is cut

A bracketed span is the shortest beginning of what is left of the text in which as many brackets
are closed as are opened; where there is no such beginning all that is left is one chunk; and what
comes before the next opening bracket is one too. This says where every cut is (`Factors`), so a
citation can be cut in one way only. The tokens are those of the chunks, in order, and nothing is
lost by reading them but line breaks outside brackets, which become spaces. -/

namespace CitationStudio.Citation

/-! ## Brackets -/

/-- As many brackets are closed as are opened. -/
def Level (t : Text) : Prop := t.count ']' = t.count '['

/-- The shortest beginning of a text that is level, other than the empty one. -/
structure ShortestLevel (span t : Text) : Prop where
  start : span <+: t
  ne_nil : span ≠ []
  level : Level span
  shortest : ∀ p, p <+: t → p ≠ [] → Level p → span.length ≤ p.length

/-- No beginning of a text is level but the empty one. -/
def NeverLevel (t : Text) : Prop := ∀ p, p <+: t → p ≠ [] → ¬ Level p

theorem ShortestLevel.unique {span span' t : Text} (h : ShortestLevel span t)
    (h' : ShortestLevel span' t) : span = span' := by
  have hlength : span.length = span'.length :=
    Nat.le_antisymm (h.shortest _ h'.start h'.ne_nil h'.level)
      (h'.shortest _ h.start h.ne_nil h.level)
  exact (List.prefix_of_prefix_length_le h.start h'.start (Nat.le_of_eq hlength)).eq_of_length
    hlength

theorem ShortestLevel.not_neverLevel {span t : Text} (h : ShortestLevel span t) :
    ¬ NeverLevel t :=
  fun hnever => hnever span h.start h.ne_nil h.level

/-- A search is over at the bracket it looks for. At any other character it goes on, for one bracket
less or more if the character is a bracket. -/
theorem closeBracket_cons (depth : Nat) (c : Char) (t : Text) :
    (c = ']' ∧ depth = 0 ∧ closeBracket depth (c :: t) = some ([], t)) ∨
      ∃ depth', [c].count ']' + depth' = [c].count '[' + depth ∧
        closeBracket depth (c :: t) =
          (closeBracket depth' t).map fun (inside, rest) => (c :: inside, rest) := by
  by_cases hclose : c = ']'
  · subst hclose
    cases depth with
    | zero => exact .inl ⟨rfl, rfl, rfl⟩
    | succ depth => exact .inr ⟨depth, by simp [Nat.add_comm], rfl⟩
  · refine .inr ⟨if c = '[' then depth + 1 else depth, ?_, if_neg hclose⟩
    have hclosed : [c].count ']' = 0 := List.count_eq_zero.2 (by simpa using Ne.symm hclose)
    by_cases hopen : c = '['
    · rw [if_pos hopen, hclosed, hopen, List.count_singleton_self]
      omega
    · have hopened : [c].count '[' = 0 := List.count_eq_zero.2 (by simpa using Ne.symm hopen)
      rw [if_neg hopen, hclosed, hopened]

/-- Where a search goes on, what holds of all beginnings behind a character holds with it. -/
theorem closed_le_cons {depth depth' : Nat} {c : Char} {t : Text}
    (hc : [c].count ']' + depth' = [c].count '[' + depth)
    (h : ∀ p, p <+: t → p.count ']' ≤ p.count '[' + depth') :
    ∀ p, p <+: c :: t → p.count ']' ≤ p.count '[' + depth := by
  intro p hp
  rcases List.prefix_cons_iff.1 hp with rfl | ⟨q, rfl, hq⟩
  · exact Nat.zero_le _
  · have := h q hq
    rw [← List.singleton_append, List.count_append, List.count_append]
    omega

/-- A bracket that is found closes so many, and none is closed too often before it. -/
theorem closeBracket_some {depth : Nat} {t inside rest : Text}
    (h : closeBracket depth t = some (inside, rest)) :
    inside.count ']' = inside.count '[' + depth ∧
      ∀ p, p <+: inside → p.count ']' ≤ p.count '[' + depth := by
  induction t generalizing depth inside with
  | nil => cases h
  | cons c t ih =>
    obtain ⟨-, rfl, he⟩ | ⟨depth', hc, he⟩ := closeBracket_cons depth c t
    · cases he.symm.trans h
      refine ⟨rfl, fun p hp => ?_⟩
      rw [List.prefix_nil.1 hp]
      exact Nat.le_refl _
    · obtain ⟨⟨i, r⟩, hi, hcons⟩ := Option.map_eq_some_iff.1 (he.symm.trans h)
      cases hcons
      obtain ⟨hcount, hbefore⟩ := ih hi
      refine ⟨?_, closed_le_cons hc hbefore⟩
      rw [← List.singleton_append, List.count_append, List.count_append]
      omega

/-- Where no bracket is found, none is closed too often. -/
theorem closeBracket_none {depth : Nat} {t : Text} (h : closeBracket depth t = none) :
    ∀ p, p <+: t → p.count ']' ≤ p.count '[' + depth := by
  induction t generalizing depth with
  | nil =>
    intro p hp
    rw [List.prefix_nil.1 hp]
    exact Nat.zero_le _
  | cons c t ih =>
    obtain ⟨-, rfl, he⟩ | ⟨depth', hc, he⟩ := closeBracket_cons depth c t
    · cases he.symm.trans h
    · exact closed_le_cons hc (ih (Option.map_eq_none_iff.1 (he.symm.trans h)))

/-- Behind an opening bracket a beginning is not level as long as no bracket is closed too often. -/
theorem not_level_opening {p : Text} (h : p.count ']' ≤ p.count '[' + 0) : ¬ Level ('[' :: p) := by
  intro hlevel
  have : ('[' :: p).count ']' = p.count ']' := by simp
  have : ('[' :: p).count '[' = p.count '[' + 1 := by simp
  unfold Level at hlevel
  omega

theorem shortestLevel_of_closeBracket {t inside rest : Text}
    (h : closeBracket 0 t = some (inside, rest)) :
    ShortestLevel (Chunk.bracketed inside).text ('[' :: t) := by
  obtain ⟨hcount, hbefore⟩ := closeBracket_some h
  have ht : '[' :: t = (Chunk.bracketed inside).text ++ rest := by
    rw [closeBracket_append h, Chunk.text]
    simp
  refine ⟨⟨rest, ht.symm⟩, List.cons_ne_nil _ _, ?_, ?_⟩
  · rw [Level, Chunk.text]
    simp [hcount]
  · intro p hp hne hlevel
    refine Nat.le_of_not_lt fun hlt => ?_
    rcases List.prefix_cons_iff.1 hp with rfl | ⟨q, rfl, hq⟩
    · exact hne rfl
    · -- a shorter beginning is inside the span, where the bracket is still open
      have hlength : q.length ≤ inside.length := by
        simp only [Chunk.text, List.length_append, List.length_cons, List.length_nil] at hlt
        omega
      have hinside : inside <+: t := ⟨']' :: rest, (closeBracket_append h).symm⟩
      have hq := List.prefix_of_prefix_length_le hq hinside hlength
      exact not_level_opening (hbefore q hq) hlevel

theorem neverLevel_of_closeBracket {t : Text} (h : closeBracket 0 t = none) :
    NeverLevel ('[' :: t) := by
  intro p hp hne
  rcases List.prefix_cons_iff.1 hp with rfl | ⟨q, rfl, hq⟩
  · exact absurd rfl hne
  · exact not_level_opening (closeBracket_none h q hq)

/-! ## Chunks -/

/-- How a text is to be cut into chunks. Each constructor says what the first chunk of the text
that is left is. -/
inductive Factors : Text → List Chunk → Prop
  | nil : Factors [] []
  | bracketed {inside rest : Text} {cs : List Chunk} :
      ShortestLevel (Chunk.bracketed inside).text ((Chunk.bracketed inside).text ++ rest) →
      Factors rest cs → Factors ((Chunk.bracketed inside).text ++ rest) (.bracketed inside :: cs)
  /-- The text up to the next opening bracket, or all of it. -/
  | plain {t rest : Text} {cs : List Chunk} :
      t ≠ [] → '[' ∉ t → (rest = [] ∨ rest.head? = some '[') →
      Factors rest cs → Factors (t ++ rest) (.plain t :: cs)
  /-- An opening bracket that is never closed, with all that follows it. -/
  | unclosed {t : Text} : t.head? = some '[' → NeverLevel t → Factors t [.unclosed t]

theorem chunks_bracketed {t inside rest : Text} (h : closeBracket 0 t = some (inside, rest)) :
    chunks ('[' :: t) = .bracketed inside :: chunks rest := by
  rw [chunks, if_pos rfl]
  split
  · rename_i i r hi
    cases h.symm.trans hi
    rfl
  · rename_i hn
    cases h.symm.trans hn

theorem chunks_unclosed {t : Text} (h : closeBracket 0 t = none) :
    chunks ('[' :: t) = [.unclosed ('[' :: t)] := by
  rw [chunks, if_pos rfl]
  split
  · rename_i i r hi
    cases h.symm.trans hi
  · rfl

theorem chunks_plain {t rest : Text} (hne : t ≠ []) (ht : '[' ∉ t)
    (hrest : rest = [] ∨ rest.head? = some '[') :
    chunks (t ++ rest) = .plain t :: chunks rest := by
  obtain ⟨c, t, rfl⟩ := List.exists_cons_of_ne_nil hne
  rw [List.mem_cons, not_or] at ht
  have hall : ∀ d ∈ t, decide (d ≠ '[') = true := by
    intro d hd
    rw [decide_eq_true_iff]
    rintro rfl
    exact ht.2 hd
  have hstop : rest.takeWhile (· ≠ '[') = [] ∧ rest.dropWhile (· ≠ '[') = rest := by
    rcases hrest with rfl | hrest
    · exact ⟨rfl, rfl⟩
    · obtain ⟨u, rfl⟩ := List.head?_eq_some_iff.1 hrest
      exact ⟨List.takeWhile_cons_of_neg (by decide), List.dropWhile_cons_of_neg (by decide)⟩
  rw [List.cons_append, chunks, if_neg (Ne.symm ht.1), List.takeWhile_append_of_pos hall,
    List.dropWhile_append_of_pos hall, hstop.1, hstop.2, List.append_nil]

theorem not_mem_takeWhile (c : Char) (t : Text) : c ∉ t.takeWhile (· ≠ c) := fun hmem => by
  simpa using List.all_eq_true.1 List.all_takeWhile _ hmem

theorem head?_dropWhile {c d : Char} {t u : Text} (h : t.dropWhile (· ≠ c) = d :: u) : d = c := by
  have hd := List.head?_dropWhile_not (· ≠ c) t
  rw [h] at hd
  simpa using hd

/-- A citation is cut as it is to be cut. -/
theorem factors_chunks (t : Text) : Factors t (chunks t) := by
  fun_induction chunks t with
  | case1 => exact .nil
  | case2 t inside rest h ih =>
    have ht : '[' :: t = (Chunk.bracketed inside).text ++ rest := by
      rw [closeBracket_append h, Chunk.text]
      simp
    have hs := shortestLevel_of_closeBracket h
    rw [ht] at hs ⊢
    exact .bracketed hs ih
  | case3 t h => exact .unclosed rfl (neverLevel_of_closeBracket h)
  | case4 c t hc ih =>
    have ht : c :: t = (c :: t.takeWhile (· ≠ '[')) ++ t.dropWhile (· ≠ '[') := by
      rw [List.cons_append, List.takeWhile_append_dropWhile]
    rw [ht]
    refine .plain (List.cons_ne_nil _ _) ?_ ?_ ih
    · rw [List.mem_cons, not_or]
      exact ⟨Ne.symm hc, not_mem_takeWhile '[' t⟩
    · cases hd : t.dropWhile (· ≠ '[') with
      | nil => exact .inl rfl
      | cons d u => exact .inr (congrArg some (head?_dropWhile hd))

/-- There is one way to cut it. -/
theorem Factors.eq_chunks {t : Text} {cs : List Chunk} (h : Factors t cs) : cs = chunks t := by
  induction h with
  | nil => rw [chunks]
  | @bracketed inside rest cs hs _ ih =>
    have ht : (Chunk.bracketed inside).text ++ rest = '[' :: (inside ++ ']' :: rest) := by
      rw [Chunk.text]
      simp
    rw [ht] at hs ⊢
    cases hc : closeBracket 0 (inside ++ ']' :: rest) with
    | none => exact absurd (neverLevel_of_closeBracket hc) hs.not_neverLevel
    | some found =>
      obtain ⟨i, r⟩ := found
      have htext := (shortestLevel_of_closeBracket hc).unique hs
      obtain rfl : i = inside := List.append_cancel_right (List.cons.inj htext).2
      have hrest := List.append_cancel_left (closeBracket_append hc)
      rw [chunks_bracketed hc, ih, (List.cons.inj hrest).2]
  | plain hne ht hrest _ ih => rw [chunks_plain hne ht hrest, ih]
  | @unclosed t ht hnever =>
    obtain ⟨u, rfl⟩ := List.head?_eq_some_iff.1 ht
    cases hc : closeBracket 0 u with
    | none => rw [chunks_unclosed hc]
    | some found => exact absurd hnever (shortestLevel_of_closeBracket hc).not_neverLevel

/-! ## Tokens -/

/-- The text of tokens, each slot standing for the next of the bracketed spans. -/
def restored : List Token → List Text → Text
  | [], _ => []
  | .literal t :: ts, spans => t ++ restored ts spans
  | .slot _ :: ts, [] => restored ts []
  | .slot _ :: ts, span :: spans => span ++ restored ts spans

def Chunk.span? : Chunk → Option Text
  | bracketed inside => some (bracketed inside).text
  | plain _ => none
  | unclosed _ => none

/-- The tokens that a chunk is to give: one slot for a bracketed span, and the literal runs of any
other chunk, which are runs of it with spaces for line breaks. -/
inductive Chunk.Gives : Chunk → List Token → Prop
  | bracketed (inside : Text) : Gives (.bracketed inside) [.slot (slotName inside)]
  | plain {t u : Text} {rs : List Text} : literalRuns t = rs → Spaced t u → Runs u rs →
      Gives (.plain t) (rs.map .literal)
  | unclosed {t u : Text} {rs : List Text} : literalRuns t = rs → Spaced t u → Runs u rs →
      Gives (.unclosed t) (rs.map .literal)

/-- The text that a chunk is to read as: a bracketed span as it is, and any other chunk with spaces
for line breaks. -/
inductive Chunk.Reads : Chunk → Text → Prop
  | bracketed (inside : Text) : Reads (.bracketed inside) ('[' :: inside ++ [']'])
  | plain {t u : Text} : Spaced t u → Reads (.plain t) u
  | unclosed {t u : Text} : Spaced t u → Reads (.unclosed t) u

theorem Chunk.gives_tokens (c : Chunk) : c.Gives c.tokens := by
  cases c with
  | bracketed inside => exact .bracketed inside
  | plain t => exact .plain rfl ((spaced_iff t _).2 rfl) (runs_runs _)
  | unclosed t => exact .unclosed rfl ((spaced_iff t _).2 rfl) (runs_runs _)

theorem restored_literals (runs : List Text) (ts : List Token) (spans : List Text) :
    restored (runs.map .literal ++ ts) spans = runs.flatten ++ restored ts spans := by
  induction runs with
  | nil => rfl
  | cons r runs ih =>
    rw [List.map_cons, List.cons_append, restored, ih, List.flatten_cons, List.append_assoc]

theorem spaced_flatten_literalRuns (t : Text) : Spaced t (literalRuns t).flatten :=
  (spaced_iff t _).2 (flatten_runs _)

/-- The tokens of a chunk read as the chunk does, and what follows them as it would alone. -/
theorem Chunk.exists_reads (c : Chunk) (ts : List Token) (spans : List Text) :
    ∃ u, c.Reads u ∧
      restored (c.tokens ++ ts) (c.span?.toList ++ spans) = u ++ restored ts spans := by
  cases c with
  | bracketed inside => exact ⟨_, .bracketed inside, rfl⟩
  | plain t => exact ⟨_, .plain (spaced_flatten_literalRuns t), restored_literals ..⟩
  | unclosed t => exact ⟨_, .unclosed (spaced_flatten_literalRuns t), restored_literals ..⟩

theorem restored_chunks (cs : List Chunk) :
    ∃ us, List.Forall₂ Chunk.Reads cs us ∧
      restored (cs.flatMap Chunk.tokens) (cs.filterMap Chunk.span?) = us.flatten := by
  induction cs with
  | nil => exact ⟨[], .nil, rfl⟩
  | cons c cs ih =>
    obtain ⟨us, hus, hrest⟩ := ih
    obtain ⟨u, hu, hfirst⟩ :=
      c.exists_reads (cs.flatMap Chunk.tokens) (cs.filterMap Chunk.span?)
    have hspans : (c :: cs).filterMap Chunk.span? =
        c.span?.toList ++ cs.filterMap Chunk.span? := by
      cases c <;> rfl
    refine ⟨u :: us, .cons hu hus, ?_⟩
    rw [List.flatMap_cons, hspans, hfirst, hrest, List.flatten_cons]

/-- **The tokens of a citation come from its chunks.** Every text is cut into chunks in the one way
that there is to cut it, and the chunks make up the text. Each bracketed span gives one slot, and
what is outside brackets its literal runs. With its span put in place of each slot the tokens make
up the text again, apart from newlines and carriage returns outside the spans, which are spaces. -/
theorem tokens_factored (t : Text) :
    let cs := chunks t
    (∀ cs', Factors t cs' ↔ cs' = cs) ∧ cs.flatMap Chunk.text = t ∧
      (∃ tss, List.Forall₂ Chunk.Gives cs tss ∧ tokens t = tss.flatten) ∧
      ∃ us, List.Forall₂ Chunk.Reads cs us ∧
        restored (tokens t) (cs.filterMap Chunk.span?) = us.flatten := by
  intro cs
  refine ⟨fun cs' => ⟨Factors.eq_chunks, ?_⟩, flatMap_chunks t, ⟨cs.map Chunk.tokens, ?_, rfl⟩,
    restored_chunks cs⟩
  · rintro rfl
    exact factors_chunks t
  · exact List.forall₂_map_right_iff.2 (List.forall₂_same.2 fun c _ => c.gives_tokens)

end CitationStudio.Citation
