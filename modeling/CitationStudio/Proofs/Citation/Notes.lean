import CitationStudio.Proofs.Citation.Factors

/-! # Notes inside brackets

What stands in parentheses inside a bracketed span is a note, and not part of the slot's name. Read
by depth, a name is what is left where no parenthesis is open (`outside`). The reader of names does
not count: it takes a note to end at the first closing parenthesis. Where parentheses match, both
readings give the same name exactly if no note has another one inside. The end of a note inside
another one is taken for the end of both, so that what follows gets into the name, a closing
parenthesis with it. -/

namespace CitationStudio.Citation

/-! ## Reading by depth -/

/-- How many parentheses are open after a character, if so many are open before it. -/
def depthAfter (depth : Nat) (c : Char) : Nat :=
  if c = '(' then depth + 1 else if c = ')' then depth - 1 else depth

/-- Does every parenthesis match, those included that are open before the text? -/
def isMatched (depth : Nat) : Text → Bool
  | [] => depth = 0
  | c :: t => (c ≠ ')' || depth ≠ 0) && isMatched (depthAfter depth c) t

/-- How many parentheses are open at once, at most. -/
def nesting (depth : Nat) : Text → Nat
  | [] => depth
  | c :: t => max depth (nesting (depthAfter depth c) t)

/-- What stands where no parenthesis is open. -/
def outside (depth : Nat) : Text → Text
  | [] => []
  | c :: t =>
    if depth = 0 ∧ c ≠ '(' ∧ c ≠ ')' then c :: outside depth t
    else outside (depthAfter depth c) t

theorem depthAfter_open (depth : Nat) : depthAfter depth '(' = depth + 1 := rfl

theorem depthAfter_close (depth : Nat) : depthAfter depth ')' = depth - 1 := rfl

theorem depthAfter_other {c : Char} (ho : c ≠ '(') (hc : c ≠ ')') (depth : Nat) :
    depthAfter depth c = depth := by
  rw [depthAfter, if_neg ho, if_neg hc]

theorem le_nesting (depth : Nat) (t : Text) : depth ≤ nesting depth t := by
  cases t with
  | nil => exact Nat.le_refl _
  | cons c t => exact Nat.le_max_left ..

theorem nesting_other {c : Char} (ho : c ≠ '(') (hc : c ≠ ')') (depth : Nat) (t : Text) :
    nesting depth (c :: t) = nesting depth t := by
  rw [nesting, depthAfter_other ho hc, Nat.max_eq_right (le_nesting depth t)]

theorem not_mem_outside (depth : Nat) (t : Text) :
    '(' ∉ outside depth t ∧ ')' ∉ outside depth t := by
  induction t generalizing depth with
  | nil => exact ⟨List.not_mem_nil, List.not_mem_nil⟩
  | cons c t ih =>
    rw [outside]
    split
    · rename_i h
      simp only [List.mem_cons, not_or]
      exact ⟨⟨Ne.symm h.2.1, (ih depth).1⟩, Ne.symm h.2.2, (ih depth).2⟩
    · exact ih _

section Opening

variable {u : Text} (hu : ')' ∉ u) (r : Text)
include hu

theorem isMatched_opening (depth : Nat) :
    isMatched depth (u ++ r) = isMatched (depth + u.count '(') r := by
  induction u generalizing depth with
  | nil => rfl
  | cons c u ih =>
    obtain ⟨hc, hu⟩ := not_or.1 (mt List.mem_cons.2 hu)
    have hstep : isMatched depth (c :: u ++ r) = isMatched (depthAfter depth c) (u ++ r) := by
      rw [List.cons_append, isMatched, decide_eq_true (Ne.symm hc), Bool.true_or, Bool.true_and]
    rw [hstep, ih hu, depthAfter, if_neg (Ne.symm hc), List.count_cons]
    by_cases ho : c = '('
    · rw [if_pos ho, if_pos (beq_iff_eq.2 ho), Nat.add_right_comm, Nat.add_assoc]
    · rw [if_neg ho, if_neg (mt beq_iff_eq.1 ho), Nat.add_zero]

theorem nesting_opening (depth : Nat) :
    nesting depth (u ++ r) = nesting (depth + u.count '(') r := by
  induction u generalizing depth with
  | nil => rfl
  | cons c u ih =>
    obtain ⟨hc, hu⟩ := not_or.1 (mt List.mem_cons.2 hu)
    rw [List.cons_append, nesting, ih hu, depthAfter, if_neg (Ne.symm hc), List.count_cons]
    by_cases ho : c = '('
    · rw [if_pos ho, if_pos (beq_iff_eq.2 ho), Nat.add_right_comm depth 1, ← Nat.add_assoc]
      have := le_nesting (depth + u.count '(' + 1) r
      omega
    · rw [if_neg ho, if_neg (mt beq_iff_eq.1 ho), Nat.add_zero]
      have := le_nesting (depth + u.count '(') r
      omega

/-- Inside a note there is nothing to keep. -/
theorem outside_opening (ho : '(' ∉ u) (depth : Nat) :
    outside (depth + 1) (u ++ r) = outside (depth + 1) r := by
  induction u with
  | nil => rfl
  | cons c u ih =>
    obtain ⟨hc, hu⟩ := not_or.1 (mt List.mem_cons.2 hu)
    obtain ⟨hco, ho⟩ := not_or.1 (mt List.mem_cons.2 ho)
    rw [List.cons_append, outside, if_neg fun h => Nat.succ_ne_zero _ h.1,
      depthAfter_other (Ne.symm hco) (Ne.symm hc), ih hu ho]

end Opening

/-! ## Reading up to the first closing parenthesis -/

theorem dropNotes_cons {c : Char} (hc : c ≠ '(') (t : Text) :
    dropNotes (c :: t) = c :: dropNotes t := by
  rw [dropNotes, if_neg hc]

theorem exists_note {t rest : Text} {d : Char} (h : t.dropWhile (· ≠ ')') = d :: rest) :
    ∃ u, ')' ∉ u ∧ t = u ++ ')' :: rest := by
  obtain rfl : d = ')' := head?_dropWhile h
  exact ⟨_, not_mem_takeWhile ')' t, by rw [← h, List.takeWhile_append_dropWhile]⟩

theorem not_mem_of_dropWhile {t : Text} (h : t.dropWhile (· ≠ ')') = []) : ')' ∉ t := by
  have ht : t.takeWhile (· ≠ ')') ++ t.dropWhile (· ≠ ')') = t :=
    List.takeWhile_append_dropWhile
  rw [h, List.append_nil] at ht
  exact ht ▸ not_mem_takeWhile ')' t

section Note

variable {u : Text} (hu : ')' ∉ u) (rest : Text)
include hu

theorem dropNotes_note : dropNotes ('(' :: (u ++ ')' :: rest)) = dropNotes rest := by
  have hdrop : (u ++ ')' :: rest).dropWhile (· ≠ ')') = ')' :: rest := by
    rw [List.dropWhile_append_of_pos fun d hd => ?_, List.dropWhile_cons_of_neg (by decide)]
    exact decide_eq_true fun he => hu (he ▸ hd)
  rw [dropNotes, if_pos rfl]
  split
  · rename_i d r hr
    cases hdrop.symm.trans hr
    rfl
  · rename_i hnil
    cases hdrop.symm.trans hnil

/-- Behind a note there are open what was open before it and what was opened inside. -/
theorem isMatched_note (depth : Nat) :
    isMatched depth ('(' :: (u ++ ')' :: rest)) = isMatched (depth + u.count '(') rest := by
  rw [isMatched, depthAfter_open, isMatched_opening hu, isMatched, depthAfter_close]
  have hdepth : depth + 1 + u.count '(' - 1 = depth + u.count '(' := by omega
  rw [hdepth]
  simp

theorem nesting_note (depth : Nat) :
    nesting depth ('(' :: (u ++ ')' :: rest)) =
      max (depth + 1 + u.count '(') (nesting (depth + u.count '(') rest) := by
  rw [nesting, depthAfter_open, nesting_opening hu, nesting, depthAfter_close]
  have hdepth : depth + 1 + u.count '(' - 1 = depth + u.count '(' := by omega
  rw [hdepth]
  omega

theorem outside_note (ho : '(' ∉ u) : outside 0 ('(' :: (u ++ ')' :: rest)) = outside 0 rest := by
  rw [outside, if_neg fun h => h.2.1 rfl, depthAfter_open, outside_opening hu _ ho, outside,
    if_neg fun h => h.2.2 rfl, depthAfter_close]

end Note

/-- A text whose parentheses match, so many being open before it, read as names are: each note ends
at the first closing parenthesis, and the notes opened inside it are open behind it. -/
inductive Noted : Nat → Text → Prop
  | nil : Noted 0 []
  | other {depth : Nat} {c : Char} {t : Text} : c ≠ '(' → c ≠ ')' → Noted depth t →
      Noted depth (c :: t)
  | close {depth : Nat} {t : Text} : Noted depth t → Noted (depth + 1) (')' :: t)
  | note {depth : Nat} {u rest : Text} : ')' ∉ u → Noted (depth + u.count '(') rest →
      Noted depth ('(' :: (u ++ ')' :: rest))

theorem not_isMatched_unclosed {t : Text} (ht : ')' ∉ t) (depth : Nat) :
    isMatched depth ('(' :: t) = false := by
  have h := isMatched_opening ht [] (depth + 1)
  rw [List.append_nil] at h
  rw [isMatched, depthAfter_open, h, isMatched]
  simp

theorem noted_of_isMatched {t : Text} {depth : Nat} (h : isMatched depth t = true) :
    Noted depth t := by
  fun_induction dropNotes t generalizing depth with
  | case1 =>
    obtain rfl : depth = 0 := by simpa [isMatched] using h
    exact .nil
  | case2 t d rest hd ih =>
    obtain ⟨u, hu, rfl⟩ := exists_note hd
    rw [isMatched_note hu] at h
    exact .note hu (ih h)
  | case3 t hd =>
    rw [not_isMatched_unclosed (not_mem_of_dropWhile hd)] at h
    cases h
  | case4 c t ho ih =>
    rw [isMatched, Bool.and_eq_true] at h
    by_cases hc : c = ')'
    · subst hc
      obtain ⟨depth, rfl⟩ := Nat.exists_eq_succ_of_ne_zero (by simpa using h.1)
      exact .close (ih h.2)
    · rw [depthAfter_other ho hc] at h
      exact .other ho hc (ih h.2)

namespace Noted

variable {depth : Nat} {t : Text}

theorem open_not_mem (h : Noted depth t) : '(' ∉ dropNotes t := by
  induction h with
  | nil => rw [dropNotes]; exact List.not_mem_nil
  | other ho hc _ ih =>
    rw [dropNotes_cons ho, List.mem_cons, not_or]
    exact ⟨Ne.symm ho, ih⟩
  | close _ ih =>
    rw [dropNotes_cons (by decide), List.mem_cons, not_or]
    exact ⟨by decide, ih⟩
  | note hu _ ih => rwa [dropNotes_note hu]

/-- A closing parenthesis is kept if a note is open before the text, or one is inside another. -/
theorem close_mem_iff (h : Noted depth t) :
    ')' ∈ dropNotes t ↔ 0 < depth ∨ 1 < nesting depth t := by
  induction h with
  | nil => simp [dropNotes, nesting]
  | other ho hc _ ih =>
    rw [dropNotes_cons ho, List.mem_cons, or_iff_right (Ne.symm hc), nesting_other ho hc, ih]
  | close _ ih =>
    rw [dropNotes_cons (by decide)]
    exact iff_of_true List.mem_cons_self (.inl (Nat.succ_pos _))
  | note hu _ ih =>
    rw [dropNotes_note hu, ih, nesting_note hu]
    omega

/-- Where no note is open before the text, nor one inside another, both readings agree. -/
theorem dropNotes_eq_outside (h : Noted depth t) (hdepth : depth = 0)
    (hflat : nesting depth t ≤ 1) : dropNotes t = outside 0 t := by
  induction h with
  | nil => rw [dropNotes, outside]
  | other ho hc _ ih =>
    rw [nesting_other ho hc] at hflat
    rw [dropNotes_cons ho, ih hdepth hflat, outside, if_pos ⟨rfl, ho, hc⟩]
  | close _ ih => exact absurd hdepth (Nat.succ_ne_zero _)
  | @note depth u rest hu _ ih =>
    rw [nesting_note hu] at hflat
    -- nothing is opened inside the first note, so nothing is open behind it
    have hcount : u.count '(' = 0 := by omega
    rw [dropNotes_note hu, outside_note hu _ (List.count_eq_zero.1 hcount)]
    exact ih (by omega) (by omega)

end Noted

/-! ## Names -/

def Chunk.inside? : Chunk → Option Text
  | bracketed inside => some inside
  | plain _ => none
  | unclosed _ => none

theorem slotsAll_literals (runs : List Text) :
    Part.slotsAll ((runs.map Token.literal).map Token.part) = [] := by
  induction runs with
  | nil => rfl
  | cons r runs ih =>
    rw [List.map_cons, List.map_cons, Part.slotsAll, ih]
    rfl

theorem slotsAll_tokens (cs : List Chunk) :
    Part.slotsAll ((cs.flatMap Chunk.tokens).map Token.part) =
      (cs.filterMap Chunk.inside?).map slotName := by
  induction cs with
  | nil => rfl
  | cons c cs ih =>
    rw [List.flatMap_cons, List.map_append, Part.slotsAll_append, ih]
    cases c with
    | bracketed inside => rfl
    | plain t | unclosed t =>
      rw [Chunk.tokens, slotsAll_literals]
      rfl

theorem insides_of_isBlank {t : Text} (h : t.isBlank = true) :
    (chunks t).filterMap Chunk.inside? = [] := by
  refine List.filterMap_eq_nil_iff.2 fun c hc => ?_
  cases c with
  | bracketed inside =>
    have hmem : '[' ∈ t := by
      rw [← flatMap_chunks t]
      exact List.mem_flatMap.2 ⟨_, hc, List.mem_cons_self⟩
    exact absurd (List.all_eq_true.1 h _ hmem) (by decide)
  | plain t | unclosed t => rfl

/-- Each bracketed span of a citation gives a slot, and nothing else does. -/
theorem slotsAll_parts (t : Text) :
    Part.slotsAll (parts t) = ((chunks t).filterMap Chunk.inside?).map slotName := by
  rw [parts]
  split
  · rename_i h
    rw [insides_of_isBlank h]
    rfl
  · exact slotsAll_tokens _

theorem close_mem_slotName_iff {inside : Text} (h : isMatched 0 inside = true) :
    ')' ∈ slotName inside ↔ 1 < nesting 0 inside := by
  rw [slotName, Text.mem_strip rfl, (noted_of_isMatched h).close_mem_iff]
  exact or_iff_right (Nat.lt_irrefl 0)

/-- The name is what is outside all notes if no note is inside another one; if one is, its end is
in the name. -/
theorem slotName_eq_outside_iff {inside : Text} (h : isMatched 0 inside = true) :
    slotName inside = (outside 0 inside).strip ↔ nesting 0 inside ≤ 1 := by
  constructor
  · intro he
    refine Nat.le_of_not_lt fun hlt => (not_mem_outside 0 inside).2 ?_
    rw [← Text.mem_strip rfl, ← he]
    exact (close_mem_slotName_iff h).2 hlt
  · intro hflat
    rw [slotName, (noted_of_isMatched h).dropNotes_eq_outside rfl hflat]

/-- **A note stays out of the name exactly if no other note is inside it.** The slots of a citation
are those of its bracketed spans, in order. Where the parentheses of a span match, its name is the
text outside all of them, stripped, if and only if they are not nested. There is never an opening
parenthesis in the name; and there is a closing one if they are nested, and only then. -/
theorem names_outside_notes (t : Text) :
    Part.slotsAll (parts t) = ((chunks t).filterMap Chunk.inside?).map slotName ∧
      ∀ inside ∈ (chunks t).filterMap Chunk.inside?, isMatched 0 inside = true →
        (slotName inside = (outside 0 inside).strip ↔ nesting 0 inside ≤ 1) ∧
          '(' ∉ slotName inside ∧ (')' ∈ slotName inside ↔ 1 < nesting 0 inside) := by
  refine ⟨slotsAll_parts t, fun inside _ h => ⟨slotName_eq_outside_iff h, ?_,
    close_mem_slotName_iff h⟩⟩
  rw [slotName, Text.mem_strip rfl]
  exact (noted_of_isMatched h).open_not_mem

/-- Two notes around brackets, and one note inside another. -/
theorem names_outside_notes_nested :
    let t := "[A(b)[C](d) ][E(f(g))]".toList
    let a := "A(b)[C](d) ".toList
    let e := "E(f(g))".toList
    (chunks t).filterMap Chunk.inside? = [a, e] ∧ isMatched 0 a = true ∧
      slotName a = "A[C]".toList ∧ isMatched 0 e = true ∧ ')' ∈ slotName e := by
  intro t a e
  have hinsides : (chunks t).filterMap Chunk.inside? = [a, e] := by
    have ha : closeBracket 0 "A(b)[C](d) ][E(f(g))]".toList = some (a, '[' :: e ++ [']']) := by
      decide
    have he : closeBracket 0 (e ++ [']']) = some (e, []) := by decide
    have ht : chunks t = [.bracketed a, .bracketed e] :=
      (chunks_bracketed ha).trans (congrArg _ ((chunks_bracketed he).trans (by rw [chunks])))
    rw [ht]
    rfl
  obtain ⟨-, hnames⟩ := names_outside_notes t
  rw [hinsides] at hnames
  have ha : isMatched 0 a = true := by decide
  have he : isMatched 0 e = true := by decide
  obtain ⟨hout, -, -⟩ := hnames a (by simp) ha
  obtain ⟨-, -, hclose⟩ := hnames e (by simp) he
  exact ⟨hinsides, ha, (hout.2 (by decide)).trans (by decide), he, hclose.2 (by decide)⟩

/-- A note inside a note leaves its end in the name. -/
theorem not_names_outside :
    ¬ ∀ t inside : Text, inside ∈ (chunks t).filterMap Chunk.inside? → isMatched 0 inside = true →
      slotName inside = (outside 0 inside).strip := by
  intro h
  have hclose : closeBracket 0 "A(B(C))]".toList = some ("A(B(C))".toList, []) := by decide
  have hinside : "A(B(C))".toList ∈ (chunks "[A(B(C))]".toList).filterMap Chunk.inside? :=
    List.mem_filterMap.2 ⟨_, (chunks_bracketed hclose).symm ▸ List.mem_cons_self, rfl⟩
  have hmatched : isMatched 0 "A(B(C))".toList = true := by decide
  have hnesting : ¬ nesting 0 "A(B(C))".toList ≤ 1 := by decide
  exact hnesting ((slotName_eq_outside_iff hmatched).1 (h _ _ hinside hmatched))

end CitationStudio.Citation
