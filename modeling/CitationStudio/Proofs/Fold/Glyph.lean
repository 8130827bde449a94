import CitationStudio.Fold.Token

/-! # A folded text as a list of glyphs

A glyph is a token or a single character. Finding tokens needs to look ahead; on glyphs it does
not, so that tokens, expansion and offsets are plain recursions that go over `++`. A text that is
cut in two is read the same on both sides of the cut if no token goes across it (`Seam`). -/

namespace CitationStudio.Fold

inductive Glyph where
  | token
  | char (c : Char)
  deriving Repr, DecidableEq, Inhabited

/-- Reads a text, its tokens first. -/
def glyphs : Text → List Glyph
  | '[' :: '*' :: ']' :: t => .token :: glyphs t
  | c :: t => .char c :: glyphs t
  | [] => []

namespace Glyph

def width : List Glyph → Nat
  | [] => 0
  | token :: gs => width gs + 3
  | char _ :: gs => width gs + 1

def count : List Glyph → Nat
  | [] => 0
  | token :: gs => count gs + 1
  | char _ :: gs => count gs

/-- Where the tokens start, the first glyph being at `offset`. -/
def startsFrom (offset : Nat) : List Glyph → List Nat
  | [] => []
  | token :: gs => offset :: startsFrom (offset + 3) gs
  | char _ :: gs => startsFrom (offset + 1) gs

def expand : List Glyph → List Text → Text
  | [], _ => []
  | token :: gs, ps => ps.headD Fold.token ++ expand gs ps.tail
  | char c :: gs, ps => c :: expand gs ps

/-- The offset in the expanded text of each offset among glyphs, the end included, if the
expanded text of what comes before has the given length. -/
def offsetsFrom (length : Nat) : List Glyph → List Text → List Nat
  | [], _ => [length]
  | token :: gs, p :: ps => length :: length :: length :: offsetsFrom (length + p.length) gs ps
  | token :: gs, [] =>
    length :: (length + 1) :: (length + 2) :: offsetsFrom (length + 3) gs []
  | char _ :: gs, ps => length :: offsetsFrom (length + 1) gs ps

@[simp] theorem width_append (gs hs : List Glyph) : width (gs ++ hs) = width gs + width hs := by
  induction gs with
  | nil => simp [width]
  | cons g gs ih => cases g <;> simp [width, ih] <;> omega

@[simp] theorem count_append (gs hs : List Glyph) : count (gs ++ hs) = count gs + count hs := by
  induction gs with
  | nil => simp [count]
  | cons g gs ih => cases g <;> simp [count, ih] <;> omega

theorem startsFrom_append (offset : Nat) (gs hs : List Glyph) :
    startsFrom offset (gs ++ hs) =
      startsFrom offset gs ++ startsFrom (offset + width gs) hs := by
  induction gs generalizing offset with
  | nil => rfl
  | cons g gs ih =>
    cases g with
    | token =>
      simp only [List.cons_append, startsFrom, width, ih]
      rw [Nat.add_right_comm, Nat.add_assoc offset]
    | char c =>
      simp only [List.cons_append, startsFrom, width, ih]
      rw [Nat.add_right_comm, Nat.add_assoc offset]

theorem startsFrom_length (offset : Nat) (gs : List Glyph) :
    (startsFrom offset gs).length = count gs := by
  induction gs generalizing offset with
  | nil => rfl
  | cons g gs ih => cases g <;> simp [startsFrom, count, ih]

theorem mem_startsFrom {offset pos : Nat} {gs : List Glyph} (h : pos ∈ startsFrom offset gs) :
    offset ≤ pos ∧ pos + 3 ≤ offset + width gs := by
  induction gs generalizing offset with
  | nil => cases h
  | cons g gs ih =>
    cases g with
    | token =>
      rcases List.mem_cons.1 h with rfl | h
      · simp only [width]; omega
      · have := ih h
        simp only [width]; omega
    | char c =>
      have := ih h
      simp only [width]; omega

theorem startsFrom_shift (offset shift : Nat) (gs : List Glyph) :
    startsFrom (offset + shift) gs = (startsFrom offset gs).map (· + shift) := by
  induction gs generalizing offset with
  | nil => rfl
  | cons g gs ih =>
    cases g with
    | token => simp only [startsFrom, List.map_cons, ← ih, Nat.add_right_comm]
    | char c => simp only [startsFrom, ← ih, Nat.add_right_comm]

theorem startsFrom_filter_lt (offset : Nat) (gs hs : List Glyph) :
    (startsFrom offset (gs ++ hs)).filter (· < offset + width gs) = startsFrom offset gs := by
  rw [startsFrom_append, List.filter_append, List.filter_eq_self.2, List.filter_eq_nil_iff.2,
    List.append_nil]
  · intro pos hp
    have := mem_startsFrom hp
    simp only [decide_eq_true_eq]
    omega
  · intro pos hp
    have := mem_startsFrom hp
    simp only [decide_eq_true_eq]
    omega

/-- The pieces for the first glyphs are the first pieces. -/
theorem expand_append (gs hs : List Glyph) (ps : List Text) :
    expand (gs ++ hs) ps = expand gs ps ++ expand hs (ps.drop (count gs)) := by
  induction gs generalizing ps with
  | nil => rfl
  | cons g gs ih =>
    cases g with
    | token =>
      simp only [List.cons_append, expand, count, ih, List.append_assoc]
      rw [← List.drop_one, List.drop_drop, Nat.add_comm 1]
    | char c => simp only [List.cons_append, expand, count, ih]

theorem expand_congr {gs : List Glyph} {ps qs : List Text}
    (h : ∀ k < count gs, ps[k]?.getD Fold.token = qs[k]?.getD Fold.token) :
    expand gs ps = expand gs qs := by
  induction gs generalizing ps qs with
  | nil => rfl
  | cons g gs ih =>
    cases g with
    | token =>
      have h0 := h 0 (Nat.zero_lt_succ _)
      have hs : expand gs ps.tail = expand gs qs.tail := ih fun k hk => by
        simpa using h (k + 1) (Nat.succ_lt_succ hk)
      simp only [expand, hs]
      rw [List.headD_eq_head?_getD, List.headD_eq_head?_getD, List.head?_eq_getElem?,
        List.head?_eq_getElem?, h0]
    | char c => simp only [expand, ih h]

theorem expand_piece (gs : List Glyph) (p : Text) (ps : List Text) :
    expand (token :: gs) (p :: ps) = p ++ expand gs ps := rfl

theorem expand_orphan (gs : List Glyph) : expand (token :: gs) [] = Fold.token ++ expand gs [] :=
  rfl

theorem mem_offsetsFrom {length x : Nat} {gs : List Glyph} {ps : List Text}
    (h : x ∈ offsetsFrom length gs ps) : length ≤ x ∧ x ≤ length + (expand gs ps).length := by
  fun_induction offsetsFrom length gs ps with
  | case1 =>
    cases List.mem_singleton.1 h
    exact ⟨Nat.le_refl _, Nat.le_add_right _ _⟩
  | case2 length gs p ps ih =>
    rw [expand_piece, List.length_append]
    simp only [List.mem_cons] at h
    rcases h with h | h | h | h
    · omega
    · omega
    · omega
    · have := ih h
      omega
  | case3 length gs ih =>
    rw [expand_orphan, List.length_append, show Fold.token.length = 3 from rfl]
    simp only [List.mem_cons] at h
    rcases h with h | h | h | h
    · omega
    · omega
    · omega
    · have := ih h
      omega
  | case4 length c gs ps ih =>
    rw [expand, List.length_cons]
    rcases List.mem_cons.1 h with h | h
    · omega
    · have := ih h
      omega

/-- Glyphs that are all characters, none of them read as part of a token. -/
def chars (t : Text) : List Glyph := t.map .char

theorem chars_cons (c : Char) (t : Text) : chars (c :: t) = char c :: chars t := rfl

@[simp] theorem width_chars (t : Text) : width (chars t) = t.length := by
  induction t with
  | nil => rfl
  | cons c t ih => rw [chars_cons, width, ih, List.length_cons]

@[simp] theorem count_chars (t : Text) : count (chars t) = 0 := by
  induction t with
  | nil => rfl
  | cons c t ih => rw [chars_cons, count, ih]

theorem expand_chars (t : Text) (ps : List Text) : expand (chars t) ps = t := by
  induction t with
  | nil => rfl
  | cons c t ih => rw [chars_cons, expand, ih]

theorem offsetsFrom_zero (length : Nat) (gs : List Glyph) (ps : List Text) :
    (offsetsFrom length gs ps)[0]? = some length := by
  fun_cases offsetsFrom length gs ps with
  | case1 | case2 | case3 | case4 => rfl

theorem offsetsFrom_width (length : Nat) (gs hs : List Glyph) (ps : List Text) :
    (offsetsFrom length (gs ++ hs) ps)[width gs]? = some (length + (expand gs ps).length) := by
  fun_induction offsetsFrom length gs ps with
  | case1 length ps => exact offsetsFrom_zero length hs ps
  | case2 length gs p ps ih =>
    rw [expand_piece, List.length_append, ← Nat.add_assoc]
    exact ih
  | case3 length gs ih =>
    rw [expand_orphan, List.length_append, ← Nat.add_assoc]
    exact ih
  | case4 length c gs ps ih =>
    rw [expand, List.length_cons, Nat.add_comm _ 1, ← Nat.add_assoc]
    exact ih

end Glyph

open Glyph (width count startsFrom)

theorem glyphs_char {c : Char} {t : Text} (h : ∀ u, c = '[' → t = '*' :: ']' :: u → False) :
    glyphs (c :: t) = .char c :: glyphs t := by
  rw [glyphs]
  exact h

theorem not_token_of_cases {c : Char} {t : Text} {ps : List Text}
    (h1 : ∀ u p qs, ps = p :: qs → c = '[' → t = '*' :: ']' :: u → False)
    (h2 : ∀ u, ps = [] → c = '[' → t = '*' :: ']' :: u → False) (u : Text) (hc : c = '[')
    (ht : t = '*' :: ']' :: u) : False := by
  cases ps with
  | nil => exact h2 u rfl hc ht
  | cons p ps => exact h1 u p ps rfl hc ht

@[simp] theorem width_glyphs (t : Text) : width (glyphs t) = t.length := by
  fun_induction glyphs t with
  | case1 t ih => simp [width, ih]
  | case2 c t _ ih => simp [width, ih]
  | case3 => rfl

theorem tokensFrom_eq (offset : Nat) (t : Text) :
    tokensFrom offset t = startsFrom offset (glyphs t) := by
  fun_induction tokensFrom offset t with
  | case1 offset t ih => rw [glyphs, startsFrom, ih]
  | case2 offset c t h ih => rw [glyphs, startsFrom, ih]; exact h
  | case3 => rfl

theorem tokenCount_eq (t : Text) : tokenCount t = count (glyphs t) := by
  rw [tokenCount, tokens, tokensFrom_eq, Glyph.startsFrom_length]

theorem expand_eq (t : Text) (ps : List Text) : expand t ps = Glyph.expand (glyphs t) ps := by
  fun_induction expand t ps with
  | case1 t p ps ih => rw [glyphs, Glyph.expand, ih]; rfl
  | case2 t ih => rw [glyphs, Glyph.expand, ih]; rfl
  | case3 c t ps h1 h2 ih =>
    rw [glyphs_char (not_token_of_cases h1 h2), Glyph.expand, ih]
  | case4 => rfl

theorem offsetsFrom_eq (length : Nat) (t : Text) (ps : List Text) :
    offsetsFrom length t ps = Glyph.offsetsFrom length (glyphs t) ps := by
  fun_induction offsetsFrom length t ps with
  | case1 length t p ps ih => rw [glyphs, Glyph.offsetsFrom, ih]
  | case2 length t ih => rw [glyphs, Glyph.offsetsFrom, ih]
  | case3 length c t ps h1 h2 ih =>
    rw [glyphs_char (not_token_of_cases h1 h2), Glyph.offsetsFrom, ih]
  | case4 => rfl

/-! ## Seams -/

/-- No token goes across the cut between two texts. -/
def Seam (l r : Text) : Prop := glyphs (l ++ r) = glyphs l ++ glyphs r

/-- The rest of a token lies on one side of a cut that does not come right after its start. -/
theorem star_of_append {t r u : Text} (h : t ++ r = '*' :: ']' :: u) (ht : 2 ≤ t.length) :
    ∃ v, t = '*' :: ']' :: v := by
  cases t with
  | nil => cases ht
  | cons c t =>
    cases t with
    | nil => simp at ht
    | cons d t =>
      simp only [List.cons_append, List.cons.injEq] at h
      exact ⟨t, by rw [h.1, h.2.1]⟩

/-- A token goes across a cut only if it is among the tokens and holds the cut inside. -/
theorem seam_of_tokensFrom (offset : Nat) {l r : Text}
    (h : ∀ pos ∈ tokensFrom offset (l ++ r),
      ¬ (pos < offset + l.length ∧ offset + l.length < pos + 3)) : Seam l r := by
  unfold Seam
  fun_induction glyphs l generalizing offset with
  | case1 t ih =>
    have hs : glyphs (t ++ r) = glyphs t ++ glyphs r := ih (offset + 3) fun pos hp => by
      have := h pos (by simp [tokensFrom, hp])
      simp only [List.length_cons] at this
      omega
    simp only [List.cons_append, glyphs, hs]
  | case2 c t hc ih =>
    -- a token made of `c` and of what comes after the cut would go across it
    have hne : ∀ u, c = '[' → t ++ r = '*' :: ']' :: u → False := by
      rintro u rfl hu
      have hin := h offset (by simp [hu, tokensFrom])
      simp only [List.length_cons] at hin
      obtain ⟨v, rfl⟩ := star_of_append hu (by omega)
      exact hc v rfl rfl
    have hs : glyphs (t ++ r) = glyphs t ++ glyphs r := ih (offset + 1) fun pos hp => by
      have := h pos (by rw [List.cons_append, tokensFrom]; · exact hp
                        · exact hne)
      simp only [List.length_cons] at this
      omega
    rw [List.cons_append, glyphs, hs, List.cons_append]
    exact hne
  | case3 => rfl

theorem tokens_append {l r : Text} (h : Seam l r) :
    tokens (l ++ r) = tokens l ++ tokensFrom l.length r := by
  have hglyphs : glyphs (l ++ r) = glyphs l ++ glyphs r := h
  rw [tokens, tokens, tokensFrom_eq, tokensFrom_eq, tokensFrom_eq, hglyphs,
    Glyph.startsFrom_append, width_glyphs, Nat.zero_add]

/-- A cut is a seam exactly if it is inside no token. -/
theorem seam_iff {l r : Text} : Seam l r ↔
    ∀ pos ∈ tokens (l ++ r), pos + 3 ≤ l.length ∨ l.length ≤ pos := by
  constructor
  · intro h pos hpos
    rw [tokens_append h, List.mem_append, tokens, tokensFrom_eq, tokensFrom_eq] at hpos
    rcases hpos with hpos | hpos
    · have hin := Glyph.mem_startsFrom hpos
      rw [width_glyphs] at hin
      omega
    · have hin := Glyph.mem_startsFrom hpos
      omega
  · intro h
    refine seam_of_tokensFrom 0 fun pos hpos => ?_
    have hout := h pos hpos
    omega

/-- Two seams stay seams without what is behind the second, and without what is before the first. -/
theorem seam_between {x y z : Text} (h : Seam x (y ++ z)) (h' : Seam (x ++ y) z) :
    Seam x y ∧ Seam y z := by
  have hx := seam_iff.1 h
  have hy := seam_iff.1 h'
  constructor
  · refine seam_iff.2 fun pos hpos => hx pos ?_
    rw [← List.append_assoc, tokens_append h']
    exact List.mem_append_left _ hpos
  · refine seam_of_tokensFrom x.length fun pos hpos => ?_
    have hmem : pos ∈ tokens (x ++ y ++ z) := by
      rw [List.append_assoc, tokens_append h]
      exact List.mem_append_right _ hpos
    have hout := hy pos hmem
    rw [List.length_append] at hout
    omega

/-- A bracket opens a token or is none of its characters. -/
theorem seam_bracket (l r : Text) : Seam l ('[' :: r) := by
  unfold Seam
  fun_induction glyphs l with
  | case1 t ih => simp only [List.cons_append, glyphs, ih]
  | case2 c t hc ih =>
    rw [List.cons_append, glyphs, ih, List.cons_append]
    intro u hcu hu
    have ht : 2 ≤ t.length := by
      cases t with
      | nil => simp at hu
      | cons d t =>
        cases t with
        | nil => simp at hu
        | cons e t => simp only [List.length_cons]; omega
    obtain ⟨v, rfl⟩ := star_of_append hu ht
    exact hc v hcu rfl
  | case3 => rfl

theorem Seam.count_eq {l r : Text} (h : Seam l r) :
    count (glyphs (l ++ r)) = count (glyphs l) + count (glyphs r) := by
  rw [h, Glyph.count_append]

/-- A token that goes across a cut is in neither text. -/
theorem seam_or_count (l r : Text) : Seam l r ∨
    count (glyphs (l ++ r)) = count (glyphs l) + count (glyphs r) + 1 := by
  unfold Seam
  fun_induction glyphs l with
  | case1 t ih =>
    simp only [List.cons_append, glyphs, List.cons.injEq, true_and, count]
    exact ih.imp id fun ih => by omega
  | case2 c t hc ih =>
    by_cases hu : ∃ u, c = '[' ∧ t ++ r = '*' :: ']' :: u
    · obtain ⟨u, rfl, hu⟩ := hu
      have hlt : t.length < 2 := Nat.lt_of_not_le fun ht => by
        obtain ⟨v, rfl⟩ := star_of_append hu ht
        exact hc v rfl rfl
      right
      rw [List.cons_append, hu, glyphs]
      -- the cut comes right after the bracket or after the star
      match t with
      | [] =>
        rw [List.nil_append] at hu
        rw [hu]
        simp [glyphs, count]
      | [d] =>
        obtain ⟨rfl, rfl⟩ := List.cons.inj hu
        simp [glyphs, count]
      | _ :: _ :: _ =>
        simp only [List.length_cons] at hlt
        omega
    · have hne : ∀ u, c = '[' → t ++ r = '*' :: ']' :: u → False := fun u h1 h2 => hu ⟨u, h1, h2⟩
      rw [List.cons_append, glyphs_char hne, List.cons_append, List.cons.injEq]
      exact ih.imp (fun ih => ⟨rfl, ih⟩) fun ih => by simpa only [count] using ih
  | case3 => exact .inl rfl

theorem glyphs_of_not_occurs {t : Text} (h : Text.occursIn token t = false) :
    glyphs t = Glyph.chars t := by
  fun_induction glyphs t with
  | case1 t ih => simp [Text.occursIn, token] at h
  | case2 c t hc ih =>
    rw [Text.occursIn, Bool.or_eq_false_iff] at h
    rw [ih h.2, Glyph.chars_cons]
  | case3 => rfl

/-- Tokens are counted where they stand, so there are none just if none occurs. -/
theorem tokenCount_eq_zero_iff {t : Text} : tokenCount t = 0 ↔ Text.occursIn token t = false := by
  rw [tokenCount_eq]
  constructor
  · intro h
    fun_induction glyphs t with
    | case1 t ih => cases h
    | case2 c t hc ih =>
      rw [Text.occursIn, Bool.or_eq_false_iff]
      refine ⟨?_, ih h⟩
      rw [← Bool.not_eq_true, List.isPrefixOf_iff_prefix]
      rintro ⟨u, hu⟩
      obtain ⟨rfl, rfl⟩ := List.cons.inj hu
      exact hc u rfl rfl
    | case3 => rfl
  · intro h
    rw [glyphs_of_not_occurs h, Glyph.count_chars]

/-- A text without tokens that is put between two others is read as it is, unless it makes a token
with what is around it. -/
theorem glyphs_insert {l t r : Text} (ht : Text.occursIn token t = false)
    (hcount : count (glyphs (l ++ t ++ r)) = count (glyphs l) + count (glyphs r)) :
    glyphs (l ++ t ++ r) = glyphs l ++ Glyph.chars t ++ glyphs r := by
  have hchars := glyphs_of_not_occurs ht
  have hnone : count (glyphs t) = 0 := by rw [hchars, Glyph.count_chars]
  rw [List.append_assoc] at hcount ⊢
  rcases seam_or_count l (t ++ r) with hl | hl
  · rcases seam_or_count t r with hr | hr
    · rw [hl, hr, hchars, List.append_assoc]
    · have := hl.count_eq
      omega
  · rcases seam_or_count t r with hr | hr
    · have := hr.count_eq
      omega
    · omega

/-- A token put between two texts is a token, and changes none of theirs. -/
theorem glyphs_insert_token (l r : Text) :
    glyphs (l ++ token ++ r) = glyphs l ++ .token :: glyphs r := by
  rw [List.append_assoc]
  exact seam_bracket l ('*' :: ']' :: r)

end CitationStudio.Fold
