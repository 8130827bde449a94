import CitationStudio.Proofs.Fold.Stretch

/-! # Folding hides text and loses none

Folding puts a single token in the place of a stretch. With the pieces spliced in the same way
every other token goes on standing for the text it stood for, one beyond the pieces for itself,
and the new one stands for the text of the stretch. The expanded text never changes. -/

namespace CitationStudio.FoldedText

open Fold
open Fold.Glyph (count startsFrom)

/-- A fold of the stretch from `a` to before `b`: the tokens around it stay, and each stands for
what it stood for; the one in its place stands for the expanded text of the stretch. -/
structure FoldsTo (f : FoldedText) (a b : Nat) (f' : FoldedText) : Prop where
  buffer : f'.buffer = splice f.buffer a b token
  tokens : tokens f'.buffer = (tokens f.buffer).take (f.tokensBefore a) ++
    a :: ((tokens f.buffer).drop (f.tokensBefore b)).map fun pos => pos - b + (a + 3)
  expanded : f'.expanded = f.expanded
  piece : f'.pieces[f.tokensBefore a]? =
    some (slice f.expanded (f.position a) (f.position b))
  before : ∀ k < f.tokensBefore a, f'.standsFor k = f.standsFor k
  after : ∀ k, f'.standsFor (f.tokensBefore a + 1 + k) = f.standsFor (f.tokensBefore b + k)

namespace Stretch

variable {f : FoldedText} {l m r : Text}

theorem length_take_padded (h : f.Stretch l m r) :
    (f.paddedPieces.take (count (glyphs l))).length = count (glyphs l) := by
  have hp := f.foldCount_le_padded
  rw [h.foldCount_eq] at hp
  rw [List.length_take]
  omega

theorem foldAt_piece (h : f.Stretch l m r) :
    (f.foldAt l.length (l ++ m).length).pieces[count (glyphs l)]? =
      some (Glyph.expand (glyphs m) (f.pieces.drop (count (glyphs l)))) := by
  rw [h.foldAt_eq]
  simp only
  rw [List.getElem?_append_right (Nat.le_of_eq h.length_take_padded), h.length_take_padded,
    Nat.sub_self, List.getElem?_cons_zero]

theorem foldAt_before (h : f.Stretch l m r) {k : Nat} (hk : k < count (glyphs l)) :
    (f.foldAt l.length (l ++ m).length).standsFor k = f.standsFor k := by
  rw [h.foldAt_eq, standsFor]
  simp only
  rw [List.getElem?_append_left (by rw [h.length_take_padded]; exact hk),
    List.getElem?_take_of_lt hk, paddedPieces_getD]

theorem foldAt_after (h : f.Stretch l m r) (k : Nat) :
    (f.foldAt l.length (l ++ m).length).standsFor (count (glyphs l) + 1 + k) =
      f.standsFor (count (glyphs l) + count (glyphs m) + k) := by
  rw [h.foldAt_eq, standsFor]
  simp only
  rw [List.getElem?_append_right (by rw [h.length_take_padded]; omega), h.length_take_padded,
    show count (glyphs l) + 1 + k - count (glyphs l) = k + 1 by omega, List.getElem?_cons_succ,
    List.getElem?_drop, paddedPieces_getD]

theorem foldAt_glyphs (h : f.Stretch l m r) :
    glyphs (f.foldAt l.length (l ++ m).length).buffer = glyphs l ++ .token :: glyphs r := by
  rw [h.foldAt_eq]
  exact glyphs_insert_token l r

theorem foldAt_foldCount (h : f.Stretch l m r) :
    (f.foldAt l.length (l ++ m).length).foldCount + count (glyphs m) = f.foldCount + 1 := by
  rw [foldCount, tokenCount_eq, h.foldAt_glyphs, h.foldCount_eq, Glyph.count_append, Glyph.count]
  omega

theorem foldAt_pieces_length (h : f.Stretch l m r) :
    (f.foldAt l.length (l ++ m).length).pieces.length + count (glyphs m) =
      f.paddedPieces.length + 1 := by
  have hp := f.foldCount_le_padded
  rw [h.foldCount_eq] at hp
  rw [h.foldAt_eq, List.length_append, h.length_take_padded, List.length_cons, List.length_drop]
  omega

/-- The new token holds what its stretch expanded to, and the others hold what they held, so the
expanded text is the same one cut in three. -/
theorem foldAt_expanded (h : f.Stretch l m r) :
    (f.foldAt l.length (l ++ m).length).expanded = f.expanded := by
  let f' := f.foldAt l.length (l ++ m).length
  -- each of the three reads a part of the pieces of its own
  have hl : Glyph.expand (glyphs l) f'.pieces = Glyph.expand (glyphs l) f.pieces :=
    Glyph.expand_congr fun k hk => h.foldAt_before hk
  have hm : Glyph.expand [.token] (f'.pieces.drop (count (glyphs l))) =
      Glyph.expand (glyphs m) (f.pieces.drop (count (glyphs l))) := by
    rw [Glyph.expand, Glyph.expand, List.append_nil, List.headD_eq_head?_getD, List.head?_drop,
      h.foldAt_piece, Option.getD_some]
  have hr : Glyph.expand (glyphs r) (f'.pieces.drop (count (glyphs l) + 1)) =
      Glyph.expand (glyphs r) (f.pieces.drop (count (glyphs l) + count (glyphs m))) :=
    Glyph.expand_congr fun k _ => by
      rw [List.getElem?_drop, List.getElem?_drop]
      exact h.foldAt_after k
  have hg : glyphs f'.buffer = glyphs l ++ [.token] ++ glyphs r := by
    rw [h.foldAt_glyphs, List.append_assoc, List.singleton_append]
  show f'.expanded = f.expanded
  rw [expanded, expand_eq, hg, Glyph.expand_append, Glyph.expand_append, Glyph.count_append, hl,
    hm, h.expanded_eq]
  exact congrArg _ hr

theorem foldAt_tokens (h : f.Stretch l m r) :
    tokens (f.foldAt l.length (l ++ m).length).buffer = startsFrom 0 (glyphs l) ++
      l.length :: (startsFrom (l ++ m).length (glyphs r)).map
        fun pos => pos - (l ++ m).length + (l.length + 3) := by
  have hr (offset : Nat) : startsFrom offset (glyphs r) =
      (startsFrom 0 (glyphs r)).map (· + offset) := by
    rw [← Glyph.startsFrom_shift, Nat.zero_add]
  rw [tokens, tokensFrom_eq, h.foldAt_glyphs, Glyph.startsFrom_append, Glyph.startsFrom,
    width_glyphs, Nat.zero_add, hr (l.length + 3), hr (l ++ m).length, List.map_map]
  congr 3
  funext pos
  show pos + _ = pos + (l ++ m).length - (l ++ m).length + _
  rw [Nat.add_sub_cancel]

theorem foldsTo (h : f.Stretch l m r) :
    f.FoldsTo l.length (l ++ m).length (f.foldAt l.length (l ++ m).length) where
  buffer := rfl
  tokens := by
    have hc : (startsFrom 0 (glyphs l)).length = count (glyphs l) := Glyph.startsFrom_length ..
    have hd : (startsFrom 0 (glyphs l) ++ startsFrom l.length (glyphs m)).length =
        count (glyphs l) + count (glyphs m) := by
      rw [List.length_append, Glyph.startsFrom_length, Glyph.startsFrom_length]
    rw [h.foldAt_tokens, h.tokensBefore_start, h.tokensBefore_stop, h.tokens_eq,
      List.drop_left' hd, List.append_assoc, List.take_left' hc]
  expanded := h.foldAt_expanded
  piece := by rw [h.tokensBefore_start, h.slice_expanded, h.foldAt_piece]
  before k hk := h.foldAt_before (by rwa [h.tokensBefore_start] at hk)
  after k := by rw [h.tokensBefore_start, h.tokensBefore_stop, h.foldAt_after]

end Stretch

theorem foldsTo_of_fold {f f' : FoldedText} {start stop : Int} (h : f.fold start stop = .ok f') :
    f.FoldsTo (min start stop).toNat (max start stop).toNat f' := by
  obtain ⟨l, m, r, hs, _, ha, hb, _, _, rfl⟩ := fold_inv h
  rw [← ha, ← hb, Int.toNat_natCast, Int.toNat_natCast]
  exact hs.foldsTo

/-- Folds one selection after another; one that is refused changes nothing. -/
def foldAll (f : FoldedText) : List (Int × Int) → FoldedText
  | [] => f
  | (start, stop) :: selections =>
    match f.fold start stop with
    | .ok f' => f'.foldAll selections
    | .error _ => f.foldAll selections

theorem foldAll_expanded (f : FoldedText) (selections : List (Int × Int)) :
    (f.foldAll selections).expanded = f.expanded := by
  induction selections generalizing f with
  | nil => rfl
  | cons s selections ih =>
    rw [foldAll]
    split
    · rename_i f' h
      rw [ih f', (foldsTo_of_fold h).expanded]
    · exact ih f

/-- **Folding keeps the text.** A fold leaves the expanded text and every other token's text as they
are, and opening all folds gives back the text there was before the first. -/
theorem fold_keeps_text (f : FoldedText) :
    (∀ start stop f', f.fold start stop = .ok f' →
      f.FoldsTo (min start stop).toNat (max start stop).toNat f') ∧
    ∀ selections, (f.foldAll selections).unfold.buffer = f.expanded := by
  constructor
  · intro start stop f' h
    exact foldsTo_of_fold h
  · intro selections
    exact f.foldAll_expanded selections

/-- A fold around the second of two tokens, where the pieces run out after the first. -/
theorem fold_keeps_text_orphan :
    let f : FoldedText := ⟨"[*]([*])".toList, ["a".toList], []⟩
    ∃ f', f.fold 8 3 = .ok f' ∧ f.FoldsTo 3 8 f' ∧ f'.pieces = ["a".toList, "([*])".toList] ∧
      (f.foldAll [(3, 8), (1, 6)]).unfold.buffer = "a([*])".toList :=
  let f : FoldedText := ⟨"[*]([*])".toList, ["a".toList], []⟩
  have h : f.fold 8 3 = .ok (f.foldAt 3 8) := by rfl
  ⟨f.foldAt 3 8, h, (fold_keeps_text f).1 8 3 _ h, by decide,
    (fold_keeps_text f).2 [(3, 8), (1, 6)]⟩

end CitationStudio.FoldedText
