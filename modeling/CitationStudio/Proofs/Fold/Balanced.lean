import CitationStudio.Proofs.Document.Readable
import CitationStudio.Proofs.Fold.Unfolded

/-! # What a fold hides

A stretch is folded if it is balanced as it is shown. What the fold hides is the stretch with its
own tokens open, and that may be balanced or not: a token opens one bracket and closes it, as its
piece may be relied on to do, but a backslash takes no more than the next character out of the
count. One before a token takes the bracket that opens it, and would take the first character of the
piece; one at the end of a piece would take what stands behind the token. As long as no backslash
reaches across an end of a token, a piece counts for as much as its token. -/

namespace CitationStudio

namespace Fold

open Compiled (backslashesAtEnd)

/-- Does a text end in a backslash that takes the next character? It does if there are an odd number
of them at the end. -/
def endsEscaping (t : Text) : Bool := backslashesAtEnd t % 2 = 1

theorem endsEscaping_pair (c : Char) (t : Text) :
    endsEscaping ('\\' :: c :: t) = endsEscaping t := by
  rw [endsEscaping, Compiled.backslashesAtEnd_pair, endsEscaping]

theorem endsEscaping_plain {c : Char} (h : c ≠ '\\') (t : Text) :
    endsEscaping (c :: t) = endsEscaping t := by
  rw [endsEscaping, Compiled.backslashesAtEnd_plain h, endsEscaping]

theorem endsEscaping_token (t : Text) : endsEscaping (token ++ t) = endsEscaping t := by
  rw [token, List.cons_append, List.cons_append, List.cons_append, List.nil_append,
    endsEscaping_plain (by decide), endsEscaping_plain (by decide), endsEscaping_plain (by decide)]

/-! ## Balanced texts inside others -/

/-- Other characters than these are not looked at, and neither is a backslash at the very end. -/
theorem balancedFrom_plain {c : Char} {t : Text} (hpair : ∀ d u, c = '\\' → t = d :: u → False)
    (hopen : c ≠ '[') (hclose : c ≠ ']') (hopen' : c ≠ '{') (hclose' : c ≠ '}')
    (square curly : Nat) : balancedFrom square curly (c :: t) = balancedFrom square curly t := by
  rw [balancedFrom]
  · exact hpair
  · exact hopen
  · exact hclose
  · exact hopen'
  · exact hclose'

/-- What closes just what is open before it leaves nothing of that to what comes next, unless it
ends in a backslash that takes the next character. -/
theorem balancedFrom_append {square curly : Nat} {u t : Text}
    (h : balancedFrom square curly u = true) (hu : endsEscaping u = false ∨ t = []) (a b : Nat) :
    balancedFrom (square + a) (curly + b) (u ++ t) = balancedFrom a b t := by
  fun_induction balancedFrom square curly u with
  | case1 square curly c u ih =>
    rw [endsEscaping_pair] at hu
    rw [List.cons_append, List.cons_append, balancedFrom]
    exact ih h hu
  | case2 square curly u ih =>
    rw [endsEscaping_plain (by decide)] at hu
    rw [List.cons_append, balancedFrom, Nat.add_right_comm]
    exact ih h hu
  | case3 square curly u ih =>
    rw [endsEscaping_plain (by decide)] at hu
    rw [Bool.and_eq_true, bne_iff_ne] at h
    rw [List.cons_append, balancedFrom, show square + a - 1 = square - 1 + a by omega,
      ih h.2 hu, bne_iff_ne.2 (show square + a ≠ 0 by omega), Bool.true_and]
  | case4 square curly u ih =>
    rw [endsEscaping_plain (by decide)] at hu
    rw [List.cons_append, balancedFrom, Nat.add_right_comm]
    exact ih h hu
  | case5 square curly u ih =>
    rw [endsEscaping_plain (by decide)] at hu
    rw [Bool.and_eq_true, bne_iff_ne] at h
    rw [List.cons_append, balancedFrom, show curly + b - 1 = curly - 1 + b by omega,
      ih h.2 hu, bne_iff_ne.2 (show curly + b ≠ 0 by omega), Bool.true_and]
  | case6 square curly c u hpair hopen hclose hopen' hclose' ih =>
    by_cases hc : c = '\\'
    · -- a backslash without a character behind it
      subst hc
      obtain rfl : u = [] := List.eq_nil_iff_forall_not_mem.2 fun d hd => by
        obtain ⟨e, u, rfl⟩ := List.exists_cons_of_ne_nil (List.ne_nil_of_mem hd)
        exact hpair e u rfl rfl
      obtain rfl : t = [] := hu.resolve_left (by decide)
      rw [List.append_nil, balancedFrom_plain hpair hopen hclose hopen' hclose']
      exact ih h (.inr rfl)
    · rw [endsEscaping_plain hc] at hu
      rw [List.cons_append,
        balancedFrom_plain (fun _ _ h => absurd h hc) hopen hclose hopen' hclose']
      exact ih h hu
  | case7 square curly =>
    rw [Bool.and_eq_true, beq_iff_eq, beq_iff_eq] at h
    rw [h.1, h.2, Nat.zero_add, Nat.zero_add, List.nil_append]

/-- A balanced text counts for nothing where it stands. -/
theorem isBalanced_append {u t : Text} (h : isBalanced u = true)
    (hu : endsEscaping u = false ∨ t = []) (square curly : Nat) :
    balancedFrom square curly (u ++ t) = balancedFrom square curly t := by
  have happend := balancedFrom_append h hu square curly
  rwa [Nat.zero_add, Nat.zero_add] at happend

theorem isBalanced_token : isBalanced token = true := rfl

/-- Texts that count for the same do so behind a character that is no backslash. -/
theorem balancedFrom_cons_congr {c : Char} (hc : c ≠ '\\') {t u : Text}
    (h : ∀ square curly, balancedFrom square curly t = balancedFrom square curly u)
    (square curly : Nat) :
    balancedFrom square curly (c :: t) = balancedFrom square curly (c :: u) := by
  by_cases hopen : c = '['
  · subst hopen
    rw [balancedFrom, balancedFrom, h]
  by_cases hclose : c = ']'
  · subst hclose
    rw [balancedFrom, balancedFrom, h]
  by_cases hopen' : c = '{'
  · subst hopen'
    rw [balancedFrom, balancedFrom, h]
  by_cases hclose' : c = '}'
  · subst hclose'
    rw [balancedFrom, balancedFrom, h]
  · have hpair (v : Text) : ∀ d w, c = '\\' → v = d :: w → False := fun _ _ h => absurd h hc
    rw [balancedFrom_plain (hpair t) hopen hclose hopen' hclose',
      balancedFrom_plain (hpair u) hopen hclose hopen' hclose', h]

/-! ## Tokens and their pieces -/

namespace Glyph

/-- No backslash reaches across an end of a token: none takes the first character of a token, and
none at the end of a piece takes what stands behind its token. -/
def EscapesStay (gs : List Glyph) (ps : List Text) : Prop :=
  ∀ u v, gs = u ++ token :: v → endsEscaping (expand u []) = false ∧
    (v ≠ [] → endsEscaping (ps[count u]?.getD Fold.token) = false)

theorem EscapesStay.char {c : Char} (hc : c ≠ '\\') {gs : List Glyph} {ps : List Text}
    (h : EscapesStay (char c :: gs) ps) : EscapesStay gs ps := by
  intro u v huv
  have hstay := h (.char c :: u) v (congrArg _ huv)
  rwa [expand, endsEscaping_plain hc] at hstay

theorem EscapesStay.pair {c : Char} {gs : List Glyph} {ps : List Text}
    (h : EscapesStay (.char '\\' :: .char c :: gs) ps) : EscapesStay gs ps := by
  intro u v huv
  have hstay := h (.char '\\' :: .char c :: u) v (congrArg (fun gs => _ :: _ :: gs) huv)
  rwa [expand, expand, endsEscaping_pair] at hstay

theorem EscapesStay.token {gs : List Glyph} {ps : List Text} (h : EscapesStay (token :: gs) ps) :
    EscapesStay gs ps.tail := by
  intro u v huv
  have hstay := h (.token :: u) v (congrArg _ huv)
  rw [expand_orphan, endsEscaping_token, count] at hstay
  rwa [List.getElem?_tail]

/-- **A balanced piece counts for as much as its token**, if no backslash reaches across an end of a
token: then the glyphs with their pieces are as balanced as the text they are read from. -/
theorem balancedFrom_expand : ∀ {gs : List Glyph} {ps : List Text}, EscapesStay gs ps →
    (∀ p ∈ ps, isBalanced p = true) → ∀ square curly,
      balancedFrom square curly (expand gs ps) = balancedFrom square curly (expand gs [])
  | [], _, _, _, _, _ => rfl
  | [.char _], _, _, _, _, _ => rfl
  | .token :: gs, ps, h, hps, square, curly => by
    have hbalanced : isBalanced (ps.headD Fold.token) = true := by
      cases ps with
      | nil => exact isBalanced_token
      | cons p ps => exact hps p (List.mem_cons_self ..)
    have hbehind : endsEscaping (ps.headD Fold.token) = false ∨ expand gs ps.tail = [] := by
      cases gs with
      | nil => exact .inr rfl
      | cons g gs =>
        rw [List.headD_eq_head?_getD, List.head?_eq_getElem?]
        exact .inl ((h [] (g :: gs) rfl).2 (List.cons_ne_nil _ _))
    rw [expand, isBalanced_append hbalanced hbehind, expand_orphan,
      isBalanced_append isBalanced_token (.inl (by decide))]
    exact balancedFrom_expand h.token (fun p hp => hps p (List.mem_of_mem_tail hp)) square curly
  | .char c :: .token :: gs, ps, h, hps, square, curly => by
    have hc : c ≠ '\\' := by
      rintro rfl
      exact absurd (h [.char '\\'] gs rfl).1 (by decide)
    exact balancedFrom_cons_congr hc (balancedFrom_expand (h.char hc) hps) square curly
  | .char c :: .char d :: gs, ps, h, hps, square, curly => by
    by_cases hc : c = '\\'
    · subst hc
      simp only [expand, balancedFrom]
      exact balancedFrom_expand h.pair hps square curly
    · exact balancedFrom_cons_congr hc (balancedFrom_expand (h.char hc) hps) square curly

theorem length_expand_nil (gs : List Glyph) : (expand gs []).length = width gs := by
  induction gs with
  | nil => rfl
  | cons g gs ih =>
    cases g with
    | token => rw [expand_orphan, List.length_append, ih, width, Nat.add_comm]; rfl
    | char c => rw [expand, List.length_cons, ih, width]

theorem width_pos {gs : List Glyph} (h : gs ≠ []) : 0 < width gs := by
  cases gs with
  | nil => exact absurd rfl h
  | cons g gs => cases g <;> exact Nat.succ_pos _

end Glyph

end Fold

/-! ## What is hidden -/

namespace FoldedText

open Fold
open Fold.Glyph (count width startsFrom)

/-- The text behind a stretch of the buffer, its tokens open. -/
def hidden (f : FoldedText) (a b : Nat) : Text := slice f.expanded (f.position a) (f.position b)

/-- No backslash in a stretch of the buffer reaches across an end of a token there: none takes the
first character of a token, and none at the end of a piece takes what stands behind its token. -/
def EscapesStay (f : FoldedText) (a b : Nat) : Prop :=
  ∀ pos ∈ tokens f.buffer, a ≤ pos → pos + 3 ≤ b → endsEscaping (slice f.buffer a pos) = false ∧
    (pos + 3 < b → endsEscaping (f.standsFor (f.tokensBefore pos)) = false)

instance (f : FoldedText) (a b : Nat) : Decidable (f.EscapesStay a b) :=
  inferInstanceAs (Decidable (∀ pos ∈ tokens f.buffer, _))

/-- All pieces are balanced. -/
def Balanced (f : FoldedText) : Prop := ∀ p ∈ f.pieces, isBalanced p = true

namespace Stretch

variable {f : FoldedText} {l m r : Text}

theorem token_place (h : f.Stretch l m r) {u v : List Glyph} (hm : glyphs m = u ++ .token :: v) :
    l.length + width u ∈ tokens f.buffer ∧
      f.tokensBefore (l.length + width u) = count (glyphs l) + count u ∧
      slice f.buffer l.length (l.length + width u) = Glyph.expand u [] := by
  refine ⟨?_, ?_, ?_⟩
  · rw [h.tokens_eq, hm, Glyph.startsFrom_append l.length, Glyph.startsFrom]
    simp only [List.mem_append, List.mem_cons, true_or, or_true]
  · have hf := Glyph.startsFrom_filter_lt 0 (glyphs l ++ u) (.token :: v ++ glyphs r)
    rw [Glyph.width_append, width_glyphs, Nat.zero_add] at hf
    rw [tokensBefore, tokens, tokensFrom_eq, h.glyphs_eq, hm]
    simp only [List.append_assoc, List.cons_append] at hf ⊢
    rw [hf, Glyph.startsFrom_length, Glyph.count_append]
  · have htext : m = Glyph.expand u [] ++ Glyph.expand (.token :: v) [] := by
      rw [← Glyph.expand_nil m, hm, Glyph.expand_append, List.drop_nil]
    have hlength : (l ++ Glyph.expand u []).length = l.length + width u := by
      rw [List.length_append, Glyph.length_expand_nil]
    rw [h.buffer_eq, htext, ← hlength, ← List.append_assoc, List.append_assoc, slice_append]

theorem escapesStay (h : f.Stretch l m r) (hstay : f.EscapesStay l.length (l ++ m).length) :
    Glyph.EscapesStay (glyphs m) (f.pieces.drop (count (glyphs l))) := by
  intro u v hm
  obtain ⟨hmem, hplace, hslice⟩ := h.token_place hm
  have hwidth : m.length = width u + (width v + 3) := by
    rw [← width_glyphs, hm, Glyph.width_append, width]
  have hend : (l ++ m).length = l.length + width u + 3 + width v := by
    rw [List.length_append, hwidth]
    omega
  obtain ⟨hbefore, hbehind⟩ := hstay _ hmem (Nat.le_add_right ..) (by omega)
  rw [hslice] at hbefore
  rw [hplace, standsFor] at hbehind
  refine ⟨hbefore, fun hv => ?_⟩
  have hpos := Glyph.width_pos hv
  rw [List.getElem?_drop]
  exact hbehind (by omega)

end Stretch

/-- An edit drops pieces and makes none. -/
theorem edit_balanced {f f' : FoldedText} {start stop : Int} {t : Text}
    (he : f.edit start stop t = .ok f') (h : f.Balanced) : f'.Balanced := by
  obtain ⟨l, m, r, -, -, -, -, rfl⟩ := edit_inv he
  intro p hp
  rcases List.mem_append.1 hp with hp | hp
  · exact h p (List.mem_of_mem_take hp)
  · exact h p (List.mem_of_mem_drop hp)

theorem balanced_padded {f : FoldedText} (h : f.Balanced) :
    ∀ p ∈ f.paddedPieces, isBalanced p = true := by
  intro p hp
  rw [paddedPieces, List.mem_append] at hp
  rcases hp with hp | hp
  · exact h p hp
  · rw [List.eq_of_mem_replicate hp]
    exact isBalanced_token

/-- A fold puts what it hides into the fold table, and nothing else. -/
theorem fold_balanced_iff {f f' : FoldedText} (h : f.Balanced) {a b : Nat} (hab : a ≤ b)
    (hf : f.fold a b = .ok f') : f'.Balanced ↔ isBalanced (f.hidden a b) = true := by
  obtain ⟨l, m, r, hst, -, hl, hm, -, -, rfl⟩ := fold_inv hf
  obtain rfl : a = l.length := by omega
  obtain rfl : b = (l ++ m).length := by omega
  have hpadded := balanced_padded h
  rw [hidden, hst.slice_expanded, hst.foldAt_eq, Balanced]
  constructor
  · intro hall
    exact hall _ (List.mem_append_right _ (List.mem_cons_self ..))
  · intro hpiece p hp
    rcases List.mem_append.1 hp with hp | hp
    · exact hpadded p (List.mem_of_mem_take hp)
    · rcases List.mem_cons.1 hp with rfl | hp
      · exact hpiece
      · exact hpadded p (List.mem_of_mem_drop hp)

/-- **A fold hides balanced text** if no backslash in the stretch reaches across an end of a token
there. -/
theorem hidden_balanced {f f' : FoldedText} (h : f.Balanced) {a b : Nat} (hab : a ≤ b)
    (hf : f.fold a b = .ok f') (hstay : f.EscapesStay a b) : isBalanced (f.hidden a b) = true := by
  obtain ⟨l, m, r, hst, -, hl, hm, hbalanced, -, -⟩ := fold_inv hf
  obtain rfl : a = l.length := by omega
  obtain rfl : b = (l ++ m).length := by omega
  have hpieces : ∀ p ∈ f.pieces.drop (count (glyphs l)), isBalanced p = true :=
    fun p hp => h p (List.mem_of_mem_drop hp)
  rw [hidden, hst.slice_expanded, isBalanced,
    Glyph.balancedFrom_expand (hst.escapesStay hstay) hpieces, Glyph.expand_nil]
  exact hbalanced

end FoldedText

end CitationStudio
