import CitationStudio.Fold.Basic
import CitationStudio.Proofs.Fold.Glyph

/-! # Stretches that are widened to whole tokens

Both ends of a stretch are moved in one pass over the tokens, so that a token is looked at when the
ends may have been moved already. Tokens do not overlap: an end that has been moved to an end of one
token is inside no other. And an end is only moved where every stretch that holds the old one and
cuts no token has to reach as well. So what comes out is the smallest of these stretches. -/

namespace CitationStudio.Fold

/-! ## Where tokens are -/

/-- A token starts at an offset of the text. -/
def HasToken (t : Text) (pos : Nat) : Prop := ∃ l r, t = l ++ token ++ r ∧ l.length = pos

theorem mem_tokensFrom {offset pos : Nat} {t : Text} (h : pos ∈ tokensFrom offset t) :
    ∃ l r, t = l ++ token ++ r ∧ offset + l.length = pos := by
  fun_induction tokensFrom offset t with
  | case1 offset t ih =>
    rcases List.mem_cons.1 h with h | h
    · exact ⟨[], t, rfl, h.symm⟩
    · obtain ⟨l, r, rfl, hl⟩ := ih h
      refine ⟨token ++ l, r, rfl, ?_⟩
      rw [List.length_append, ← hl, ← Nat.add_assoc]
      rfl
  | case2 offset c t _ ih =>
    obtain ⟨l, r, rfl, hl⟩ := ih h
    refine ⟨c :: l, r, rfl, ?_⟩
    rw [List.length_cons]
    omega
  | case3 => cases h

/-- Every token is found: none of its characters but the first can be the start of another one. -/
theorem mem_tokens_iff {t : Text} {pos : Nat} : pos ∈ tokens t ↔ HasToken t pos := by
  constructor
  · intro h
    obtain ⟨l, r, ht, hl⟩ := mem_tokensFrom h
    exact ⟨l, r, ht, by omega⟩
  · intro h
    obtain ⟨l, r, rfl, rfl⟩ := h
    rw [List.append_assoc]
    exact tokens_append (seam_bracket l ('*' :: ']' :: r)) ▸
      List.mem_append_right _ (List.mem_cons_self ..)

theorem tokens_apart (t : Text) : (tokens t).Pairwise fun p q => p + 3 ≤ q := by
  rw [tokens, tokensFrom_eq]
  generalize 0 = offset
  induction glyphs t generalizing offset with
  | nil => exact List.Pairwise.nil
  | cons g gs ih =>
    cases g with
    | token => exact List.pairwise_cons.2 ⟨fun q hq => (Glyph.mem_startsFrom hq).1, ih _⟩
    | char c => exact ih _

/-! ## Widening -/

theorem foldl_snapTo_bounds (marks : List Nat) (stretch : Int × Int) :
    (marks.foldl snapTo stretch).1 ≤ stretch.1 ∧ stretch.2 ≤ (marks.foldl snapTo stretch).2 := by
  induction marks generalizing stretch with
  | nil => exact ⟨Int.le_refl _, Int.le_refl _⟩
  | cons pos marks ih =>
    have hs : (snapTo stretch pos).1 ≤ stretch.1 ∧ stretch.2 ≤ (snapTo stretch pos).2 := by
      simp only [snapTo]
      constructor <;> split <;> omega
    obtain ⟨h1, h2⟩ := ih (snapTo stretch pos)
    exact ⟨Int.le_trans h1 hs.1, Int.le_trans hs.2 h2⟩

/-- Neither end of a stretch is strictly inside the token at `pos`. -/
def Clears (stretch : Int × Int) (pos : Nat) : Prop :=
  ¬ (↑pos < stretch.1 ∧ stretch.1 < ↑pos + 3) ∧ ¬ (↑pos < stretch.2 ∧ stretch.2 < ↑pos + 3)

/-- Neither end of a stretch is strictly inside a token. -/
def CutsNoToken (t : Text) (stretch : Int × Int) : Prop :=
  ∀ pos, HasToken t pos → Clears stretch pos

theorem clears_snapTo (stretch : Int × Int) (pos : Nat) : Clears (snapTo stretch pos) pos := by
  simp only [Clears, snapTo]
  constructor
  · split <;> omega
  · split <;> omega

/-- An end that is moved goes to an end of a later token. -/
theorem Clears.snapTo {stretch : Int × Int} {pos later : Nat} (h : Clears stretch pos)
    (hlater : pos + 3 ≤ later) : Clears (snapTo stretch later) pos := by
  obtain ⟨hstart, hstop⟩ := h
  simp only [Clears, Fold.snapTo]
  constructor
  · split <;> omega
  · split <;> omega

theorem Clears.foldl_snapTo {marks : List Nat} {stretch : Int × Int} {pos : Nat}
    (h : Clears stretch pos) (hlater : ∀ later ∈ marks, pos + 3 ≤ later) :
    Clears (marks.foldl Fold.snapTo stretch) pos := by
  induction marks generalizing stretch with
  | nil => exact h
  | cons later marks ih =>
    obtain ⟨hfirst, hmarks⟩ := List.forall_mem_cons.1 hlater
    exact ih (h.snapTo hfirst) hmarks

/-- After the pass over the tokens neither end is inside any of them. -/
theorem clears_foldl_snapTo {marks : List Nat} (h : marks.Pairwise fun p q => p + 3 ≤ q)
    (stretch : Int × Int) : ∀ pos ∈ marks, Clears (marks.foldl snapTo stretch) pos := by
  induction marks generalizing stretch with
  | nil => exact nofun
  | cons first marks ih =>
    obtain ⟨hfirst, hmarks⟩ := List.pairwise_cons.1 h
    intro pos hpos
    rcases List.mem_cons.1 hpos with hpos | hpos
    · rw [hpos]
      exact (clears_snapTo stretch first).foldl_snapTo hfirst
    · exact ih hmarks _ pos hpos

theorem foldl_snapTo_eq {marks : List Nat} {a b : Int}
    (h : ∀ pos ∈ marks, ¬ (↑pos < a ∧ a < ↑pos + 3) ∧ ¬ (↑pos < b ∧ b < ↑pos + 3)) :
    marks.foldl snapTo (a, b) = (a, b) := by
  induction marks with
  | nil => rfl
  | cons pos marks ih =>
    obtain ⟨ha, hb⟩ := h pos (List.mem_cons_self ..)
    rw [List.foldl_cons, snapTo]
    simp only [if_neg ha, if_neg hb]
    exact ih fun p hp => h p (List.mem_cons_of_mem _ hp)

section Least

variable {r stretch : Int × Int} (hstart : r.1 ≤ stretch.1) (hstop : stretch.2 ≤ r.2)
include hstart hstop

/-- An end is moved no further than to where a stretch around it has to reach. -/
theorem snapTo_le {pos : Nat} (h : Clears r pos) :
    r.1 ≤ (snapTo stretch pos).1 ∧ (snapTo stretch pos).2 ≤ r.2 := by
  obtain ⟨h1, h2⟩ := h
  simp only [snapTo]
  constructor
  · split <;> omega
  · split <;> omega

theorem foldl_snapTo_le {marks : List Nat} (h : ∀ pos ∈ marks, Clears r pos) :
    r.1 ≤ (marks.foldl snapTo stretch).1 ∧ (marks.foldl snapTo stretch).2 ≤ r.2 := by
  induction marks generalizing stretch with
  | nil => exact ⟨hstart, hstop⟩
  | cons pos marks ih =>
    obtain ⟨hpos, hmarks⟩ := List.forall_mem_cons.1 h
    obtain ⟨h1, h2⟩ := snapTo_le hstart hstop hpos
    exact ih h1 h2 hmarks

end Least

theorem cutsNoToken_whole (t : Text) : CutsNoToken t (0, t.length) := by
  intro pos h
  obtain ⟨l, r, rfl, rfl⟩ := h
  simp only [Clears, List.length_append, show token.length = 3 from rfl]
  omega

theorem cutsNoToken_snap (t : Text) (a b : Int) : CutsNoToken t (snap t a b) := fun pos h =>
  clears_foldl_snapTo (tokens_apart t) (a, b) pos (mem_tokens_iff.2 h)

/-- Nothing is widened exactly if no token is cut. -/
theorem snap_eq_self_iff {t : Text} {a b : Int} :
    snap t a b = (a, b) ↔ CutsNoToken t (a, b) := by
  constructor
  · intro h
    rw [← h]
    exact cutsNoToken_snap t a b
  · intro h
    exact foldl_snapTo_eq fun pos hpos => h pos (mem_tokens_iff.1 hpos)

/-- A stretch that cuts no token holds all that its parts are widened to. -/
theorem CutsNoToken.snap_le {t : Text} {r : Int × Int} (h : CutsNoToken t r) {a b : Int}
    (ha : r.1 ≤ a) (hb : b ≤ r.2) : r.1 ≤ (snap t a b).1 ∧ (snap t a b).2 ≤ r.2 :=
  foldl_snapTo_le ha hb fun pos hpos => h pos (mem_tokens_iff.1 hpos)

/-- **A stretch is widened to the smallest one around it that cuts no token.** It holds the
stretch, has no end strictly inside a token, and lies in every other stretch of which this is true.
It stays in the text, and is not widened again. -/
theorem snap_smallest {t : Text} {a b : Int} (ha : 0 ≤ a) (hab : a ≤ b) (hb : b ≤ t.length) :
    let s := snap t a b
    (s.1 ≤ a ∧ b ≤ s.2) ∧ CutsNoToken t s ∧
      (∀ r : Int × Int, r.1 ≤ a → b ≤ r.2 → CutsNoToken t r → r.1 ≤ s.1 ∧ s.2 ≤ r.2) ∧
      (0 ≤ s.1 ∧ s.1 ≤ s.2 ∧ s.2 ≤ t.length) ∧ snap t s.1 s.2 = s := by
  intro s
  have hwider : s.1 ≤ a ∧ b ≤ s.2 := foldl_snapTo_bounds (tokens t) (a, b)
  have hwhole : CutsNoToken t s := cutsNoToken_snap t a b
  have hinside : 0 ≤ s.1 ∧ s.2 ≤ t.length := (cutsNoToken_whole t).snap_le ha hb
  refine ⟨hwider, hwhole, fun r h1 h2 hr => hr.snap_le h1 h2, ?_, snap_eq_self_iff.2 hwhole⟩
  omega

/-- From inside one token into the next one, where what is between them looks like a token that
begins and does not end. -/
theorem snap_smallest_adjacent :
    let t := "[*][*[*]x".toList
    (0 : Int) ≤ 1 ∧ (1 : Int) ≤ 6 ∧ (6 : Int) ≤ t.length ∧ snap t 1 6 = (0, 8) ∧
      CutsNoToken t (0, 8) ∧
      ∀ r : Int × Int, r.1 ≤ 1 → 6 ≤ r.2 → CutsNoToken t r → r.1 ≤ 0 ∧ 8 ≤ r.2 := by
  intro t
  have hsnap : snap t 1 6 = (0, 8) := by decide
  obtain ⟨-, hwhole, hleast, -, -⟩ :=
    snap_smallest (t := t) (a := 1) (b := 6) (by decide) (by decide) (by decide)
  rw [hsnap] at hwhole hleast
  exact ⟨by decide, by decide, by decide, hsnap, hwhole, hleast⟩

end CitationStudio.Fold
