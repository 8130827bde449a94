import CitationStudio.Proofs.Fold.Snapped

/-! # Stretches between tokens

A selection that is folded cuts through no token, so that the buffer is read as the glyphs before
it, inside it and after it. What folding looks up in the buffer, the tokens before and inside the
selection and their pieces, is said here in terms of the three. -/

namespace CitationStudio

namespace Fold

theorem not_inside_of_snap {buffer : Text} {a b : Int} (h : snap buffer a b = (a, b)) {pos : Nat}
    (hp : pos ∈ tokens buffer) :
    ¬ (↑pos < a ∧ a < ↑pos + 3) ∧ ¬ (↑pos < b ∧ b < ↑pos + 3) :=
  snap_eq_self_iff.1 h pos (mem_tokens_iff.1 hp)

theorem slice_append (l m r : Text) : slice (l ++ m ++ r) l.length (l ++ m).length = m := by
  rw [slice, List.take_left' rfl, List.drop_left' rfl]

theorem splice_append (l m r t : Text) :
    splice (l ++ m ++ r) l.length (l ++ m).length t = l ++ t ++ r := by
  rw [splice, List.drop_left' rfl, List.append_assoc l m r, List.take_left' rfl]

/-- A text around a stretch of it. -/
theorem exists_stretch (t : Text) {a b : Nat} (hab : a ≤ b) (hb : b ≤ t.length) :
    ∃ l m r, t = l ++ m ++ r ∧ l.length = a ∧ (l ++ m).length = b := by
  have hl : (t.take a ++ slice t a b).length = b := by
    simp only [slice, List.length_append, List.length_drop, List.length_take]
    omega
  exact ⟨t.take a, slice t a b, t.drop b, (t.three_pieces hab).symm,
    by rw [List.length_take]; omega, hl⟩

end Fold

namespace FoldedText

open Fold
open Fold.Glyph (count startsFrom)

/-- What the token at a place stands for: its piece, or itself. -/
def standsFor (f : FoldedText) (place : Nat) : Text := f.pieces[place]?.getD token

/-- How many tokens start before an offset. -/
def tokensBefore (f : FoldedText) (offset : Nat) : Nat :=
  ((tokens f.buffer).filter (· < offset)).length

theorem tokensBefore_le_foldCount (f : FoldedText) (offset : Nat) :
    f.tokensBefore offset ≤ f.foldCount :=
  List.length_filter_le _ _

theorem tokensBefore_mono (f : FoldedText) {a b : Nat} (h : a ≤ b) :
    f.tokensBefore a ≤ f.tokensBefore b := by
  rw [tokensBefore, tokensBefore, ← List.countP_eq_length_filter, ← List.countP_eq_length_filter]
  refine List.countP_mono_left fun pos _ hpos => ?_
  simp only [decide_eq_true_eq] at hpos ⊢
  omega

/-- The offset in the expanded text of an offset of the buffer. -/
def position (f : FoldedText) (offset : Nat) : Nat :=
  (offsets f.buffer f.pieces)[offset]?.getD f.expanded.length

/-- A stretch of the buffer that cuts through no token. -/
structure Stretch (f : FoldedText) (l m r : Text) : Prop where
  buffer_eq : f.buffer = l ++ m ++ r
  glyphs_eq : glyphs f.buffer = glyphs l ++ glyphs m ++ glyphs r

theorem stretch_of_snap {f : FoldedText} {l m r : Text} (hb : f.buffer = l ++ m ++ r)
    (hs : snap f.buffer l.length (l ++ m).length = (↑l.length, ↑(l ++ m).length)) :
    f.Stretch l m r := by
  have hin (pos : Nat) (hp : pos ∈ tokens f.buffer) := not_inside_of_snap hs hp
  have hl : Seam l (m ++ r) := seam_iff.2 fun pos hp => by
    have := (hin pos (by rw [hb, List.append_assoc]; exact hp)).1
    omega
  have hm : Seam (l ++ m) r := seam_iff.2 fun pos hp => by
    have := (hin pos (by rw [hb]; exact hp)).2
    omega
  refine ⟨hb, ?_⟩
  rw [hb, hm, (seam_between hl hm).1]

/-- What is selected: the stretch between the two ends, unless it is empty or out of bounds. -/
theorem selection_eq_ok_iff {f : FoldedText} {start stop : Int} {a b : Nat} :
    f.selection start stop = .ok (a, b) ↔ (a : Int) = min start stop ∧ (b : Int) = max start stop ∧
      a < b ∧ b ≤ f.buffer.length := by
  unfold selection
  dsimp only
  split
  · exact iff_of_false (fun h => nomatch h) (by omega)
  · split
    · exact iff_of_false (fun h => nomatch h) (by omega)
    · rw [Except.ok.injEq, Prod.mk.injEq]
      omega

/-- What is known of a selection that is folded. -/
theorem fold_inv {f f' : FoldedText} {start stop : Int} (h : f.fold start stop = .ok f') :
    ∃ l m r, f.Stretch l m r ∧ m ≠ [] ∧ (l.length : Int) = min start stop ∧
      ((l ++ m).length : Int) = max start stop ∧ isBalanced m = true ∧
      (∀ s ∈ f.spans, cutsSpan l.length (l ++ m).length s = false) ∧
      f' = f.foldAt l.length (l ++ m).length := by
  unfold fold at h
  split at h
  · cases h
  · rename_i a b hsel
    obtain ⟨ha, hb, hab, hn⟩ := selection_eq_ok_iff.1 hsel
    obtain ⟨l, m, r, heq, rfl, rfl⟩ := exists_stretch f.buffer (Nat.le_of_lt hab) hn
    split at h
    · cases h
    · rename_i hbal
      rw [heq, slice_append] at hbal
      split at h
      · cases h
      · rename_i hsnap
        split at h
        · cases h
        · rename_i hcut
          cases h
          refine ⟨l, m, r, stretch_of_snap heq (Decidable.not_not.1 hsnap), ?_, ha, hb, ?_, ?_,
            rfl⟩
          · rintro rfl
            rw [List.append_nil] at hab
            exact Nat.lt_irrefl _ hab
          · simpa using hbal
          · intro s hs
            simp only [List.any_eq_true, not_exists, not_and] at hcut
            simpa using hcut s hs

theorem paddedPieces_getD (f : FoldedText) (place : Nat) :
    f.paddedPieces[place]?.getD token = f.standsFor place := by
  rw [paddedPieces, standsFor, List.getElem?_append]
  split
  · rfl
  · rename_i h
    rw [List.getElem?_replicate, List.getElem?_eq_none (Nat.le_of_not_lt h)]
    split <;> rfl

theorem foldCount_le_padded (f : FoldedText) : f.foldCount ≤ f.paddedPieces.length := by
  rw [paddedPieces, List.length_append, List.length_replicate]
  omega

namespace Stretch

variable {f : FoldedText} {l m r : Text}

theorem tokens_eq (h : f.Stretch l m r) :
    tokens f.buffer = startsFrom 0 (glyphs l) ++ startsFrom l.length (glyphs m) ++
      startsFrom (l ++ m).length (glyphs r) := by
  rw [tokens, tokensFrom_eq, h.glyphs_eq, Glyph.startsFrom_append, Glyph.startsFrom_append,
    Glyph.width_append, width_glyphs, width_glyphs, Nat.zero_add, Nat.zero_add,
    List.length_append]

/-- No token goes across an end of a stretch. -/
theorem uncrossed (h : f.Stretch l m r) {pos : Nat} (hp : pos ∈ tokens f.buffer) :
    (pos + 3 ≤ l.length ∨ l.length ≤ pos) ∧
      (pos + 3 ≤ (l ++ m).length ∨ (l ++ m).length ≤ pos) := by
  rw [h.tokens_eq, List.mem_append, List.mem_append] at hp
  rw [List.length_append] at hp ⊢
  rcases hp with (hp | hp) | hp
  · have hin := Glyph.mem_startsFrom hp
    rw [width_glyphs] at hin
    omega
  · have hin := Glyph.mem_startsFrom hp
    rw [width_glyphs] at hin
    omega
  · have hin := Glyph.mem_startsFrom hp
    omega

theorem seam_start (h : f.Stretch l m r) : Seam l (m ++ r) := seam_iff.2 fun pos hp => by
  rw [← List.append_assoc, ← h.buffer_eq] at hp
  exact (h.uncrossed hp).1

theorem seam_stop (h : f.Stretch l m r) : Seam (l ++ m) r := seam_iff.2 fun pos hp => by
  rw [← h.buffer_eq] at hp
  exact (h.uncrossed hp).2

/-- A stretch that holds a character, is balanced and cuts no mark is folded. -/
theorem fold_eq (h : f.Stretch l m r) (hm : m ≠ []) (hbal : isBalanced m = true)
    (hcut : ∀ s ∈ f.spans, cutsSpan l.length (l ++ m).length s = false) {start stop : Int}
    (hstart : start = l.length) (hstop : stop = (l ++ m).length) :
    f.fold start stop = .ok (f.foldAt l.length (l ++ m).length) := by
  have hpos := List.length_pos_iff.2 hm
  have hlength : f.buffer.length = (l ++ m).length + r.length := by
    rw [h.buffer_eq, List.length_append]
  have hselection : f.selection start stop = .ok (l.length, (l ++ m).length) := by
    rw [selection_eq_ok_iff, hstart, hstop]
    rw [List.length_append] at hlength ⊢
    omega
  have hsnap : snap f.buffer l.length (l ++ m).length = (↑l.length, ↑(l ++ m).length) :=
    foldl_snapTo_eq fun pos hp => by
      have := h.uncrossed hp
      omega
  have hslice : slice f.buffer l.length (l ++ m).length = m := by rw [h.buffer_eq, slice_append]
  have hany : f.spans.any (cutsSpan l.length (l ++ m).length) = false :=
    List.any_eq_false.2 fun s hs => by
      rw [hcut s hs]
      exact Bool.false_ne_true
  rw [fold, hselection]
  simp only [hslice, hbal, hsnap, hany, Bool.not_true, Bool.false_eq_true, ne_eq, not_true,
    if_false]

theorem foldCount_eq (h : f.Stretch l m r) :
    f.foldCount = count (glyphs l) + count (glyphs m) + count (glyphs r) := by
  rw [foldCount, tokenCount_eq, h.glyphs_eq, Glyph.count_append, Glyph.count_append]

theorem expanded_eq (h : f.Stretch l m r) :
    f.expanded = Glyph.expand (glyphs l) f.pieces ++
      Glyph.expand (glyphs m) (f.pieces.drop (count (glyphs l))) ++
        Glyph.expand (glyphs r) (f.pieces.drop (count (glyphs l) + count (glyphs m))) := by
  rw [expanded, expand_eq, h.glyphs_eq, Glyph.expand_append, Glyph.expand_append,
    Glyph.count_append]

theorem filter_before (h : f.Stretch l m r) :
    (tokens f.buffer).filter (· < l.length) = startsFrom 0 (glyphs l) := by
  have hf := Glyph.startsFrom_filter_lt 0 (glyphs l) (glyphs m ++ glyphs r)
  rw [width_glyphs, Nat.zero_add] at hf
  rw [tokens, tokensFrom_eq, h.glyphs_eq, List.append_assoc]
  exact hf

theorem filter_until (h : f.Stretch l m r) :
    (tokens f.buffer).filter (· < (l ++ m).length) = startsFrom 0 (glyphs l ++ glyphs m) := by
  have hf := Glyph.startsFrom_filter_lt 0 (glyphs l ++ glyphs m) (glyphs r)
  rw [Glyph.width_append, width_glyphs, width_glyphs, Nat.zero_add, ← List.length_append] at hf
  rw [tokens, tokensFrom_eq, h.glyphs_eq]
  exact hf

theorem filter_inside (h : f.Stretch l m r) :
    ((tokens f.buffer).filter fun pos => l.length ≤ pos && pos + 3 ≤ (l ++ m).length) =
      startsFrom l.length (glyphs m) := by
  rw [h.tokens_eq, List.filter_append, List.filter_append, List.filter_eq_nil_iff.2,
    List.filter_eq_self.2, List.filter_eq_nil_iff.2, List.append_nil, List.nil_append]
  · intro pos hp
    have := Glyph.mem_startsFrom hp
    simp only [Bool.and_eq_true, decide_eq_true_eq]
    omega
  · intro pos hp
    have := Glyph.mem_startsFrom hp
    rw [width_glyphs] at this
    simp only [Bool.and_eq_true, decide_eq_true_eq, List.length_append]
    omega
  · intro pos hp
    have := Glyph.mem_startsFrom hp
    rw [width_glyphs] at this
    simp only [Bool.and_eq_true, decide_eq_true_eq]
    omega

theorem tokensBefore_start (h : f.Stretch l m r) : f.tokensBefore l.length = count (glyphs l) := by
  rw [tokensBefore, h.filter_before, Glyph.startsFrom_length]

theorem tokensBefore_stop (h : f.Stretch l m r) :
    f.tokensBefore (l ++ m).length = count (glyphs l) + count (glyphs m) := by
  rw [tokensBefore, h.filter_until, Glyph.startsFrom_length, Glyph.count_append]

theorem position_start (h : f.Stretch l m r) :
    f.position l.length = (Glyph.expand (glyphs l) f.pieces).length := by
  have ho := Glyph.offsetsFrom_width 0 (glyphs l) (glyphs m ++ glyphs r) f.pieces
  rw [width_glyphs, ← List.append_assoc, ← h.glyphs_eq, ← offsetsFrom_eq, Nat.zero_add] at ho
  rw [position, offsets, ho, Option.getD_some]

theorem position_stop (h : f.Stretch l m r) :
    f.position (l ++ m).length = (Glyph.expand (glyphs l) f.pieces ++
      Glyph.expand (glyphs m) (f.pieces.drop (count (glyphs l)))).length := by
  have ho := Glyph.offsetsFrom_width 0 (glyphs l ++ glyphs m) (glyphs r) f.pieces
  rw [Glyph.width_append, width_glyphs, width_glyphs, ← List.length_append, ← h.glyphs_eq,
    ← offsetsFrom_eq, Nat.zero_add, Glyph.expand_append] at ho
  rw [position, offsets, ho, Option.getD_some]

/-- The text folded away is that of the stretch with its own folds open. -/
theorem slice_expanded (h : f.Stretch l m r) :
    slice f.expanded (f.position l.length) (f.position (l ++ m).length) =
      Glyph.expand (glyphs m) (f.pieces.drop (count (glyphs l))) := by
  rw [h.position_start, h.position_stop, h.expanded_eq, slice_append]

/-- A fold takes the pieces of the tokens in the stretch out of the padded pieces. -/
theorem foldAt_padded (h : f.Stretch l m r) : f.foldAt l.length (l ++ m).length =
    { buffer := l ++ token ++ r
      pieces := f.paddedPieces.take (count (glyphs l)) ++
        expand m ((f.paddedPieces.drop (count (glyphs l))).take (count (glyphs m))) ::
          f.paddedPieces.drop (count (glyphs l) + count (glyphs m))
      spans := Span.remap f.spans l.length (l ++ m).length 3 } := by
  rw [foldAt, h.filter_before, h.filter_inside, Glyph.startsFrom_length, Glyph.startsFrom_length,
    h.buffer_eq, slice_append, splice_append]

/-- A fold puts one token in the place of a stretch, and one piece in the place of the pieces of
its tokens. -/
theorem foldAt_eq (h : f.Stretch l m r) : f.foldAt l.length (l ++ m).length =
    { buffer := l ++ token ++ r
      pieces := f.paddedPieces.take (count (glyphs l)) ++
        Glyph.expand (glyphs m) (f.pieces.drop (count (glyphs l))) ::
          f.paddedPieces.drop (count (glyphs l) + count (glyphs m))
      spans := Span.remap f.spans l.length (l ++ m).length 3 } := by
  have hp : expand m ((f.paddedPieces.drop (count (glyphs l))).take (count (glyphs m))) =
      Glyph.expand (glyphs m) (f.pieces.drop (count (glyphs l))) := by
    rw [expand_eq]
    refine Glyph.expand_congr fun k hk => ?_
    rw [List.getElem?_take_of_lt hk, List.getElem?_drop, List.getElem?_drop,
      paddedPieces_getD, standsFor]
  rw [h.foldAt_padded, hp]

end Stretch

end FoldedText

end CitationStudio
