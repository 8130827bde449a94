import CitationStudio.Proofs.Fold.Alignment
import CitationStudio.Proofs.Span.Cover

/-! # Operations that are not refused

An operation checks a selection before it does anything. What a selection that passes is known to
be, and what is then done with it, is said here once for each operation. Marking widens a selection
to whole tokens; an edit, like a fold, works on a stretch that cuts through no token, and around it
the buffer is read as it was before. -/

namespace CitationStudio.FoldedText

open Fold
open Fold.Glyph (count chars startsFrom)

/-! ## Marking -/

/-- A selection that holds a character and lies in the buffer. -/
def Selectable (f : FoldedText) (start stop : Int) : Prop :=
  start ≠ stop ∧ 0 ≤ min start stop ∧ max start stop ≤ f.buffer.length

instance (f : FoldedText) (start stop : Int) : Decidable (f.Selectable start stop) :=
  inferInstanceAs (Decidable (_ ∧ _ ∧ _))

/-- A selection, widened to whole tokens. -/
def widened (f : FoldedText) (start stop : Int) : Span :=
  let (a, b) := snap f.buffer (min start stop) (max start stop)
  ⟨a, b⟩

theorem Selectable.widened_liesIn {f : FoldedText} {start stop : Int}
    (h : f.Selectable start stop) : (f.widened start stop).LiesIn f.buffer.length := by
  obtain ⟨-, h0, hn⟩ := h
  have hwithin := (cutsNoToken_whole f.buffer).snap_le h0 hn
  have hwider := foldl_snapTo_bounds (tokens f.buffer) (min start stop, max start stop)
  rw [← snap] at hwider
  exact ⟨hwithin.1, by simp only [widened]; omega, hwithin.2⟩

theorem selectable_of_selection {f : FoldedText} {start stop : Int} {a b : Nat}
    (h : f.selection start stop = .ok (a, b)) : f.Selectable start stop ∧
      f.widened start stop = ⟨(snap f.buffer a b).1, (snap f.buffer a b).2⟩ := by
  obtain ⟨ha, hb, hab, hn⟩ := selection_eq_ok_iff.1 h
  refine ⟨⟨by omega, by omega, by omega⟩, ?_⟩
  rw [widened, ← ha, ← hb]

theorem Selectable.selection {f : FoldedText} {start stop : Int} (h : f.Selectable start stop) :
    ∃ a b, f.selection start stop = .ok (a, b) := by
  obtain ⟨hne, h0, hn⟩ := h
  exact ⟨(min start stop).toNat, (max start stop).toNat,
    selection_eq_ok_iff.2 ⟨by omega, by omega, by omega, by omega⟩⟩

theorem markExpr_inv {f f' : FoldedText} {start stop : Int} (h : f.markExpr start stop = .ok f') :
    f.Selectable start stop ∧
      f' = { f with spans := Span.merge (f.spans ++ [f.widened start stop]) } := by
  unfold markExpr at h
  split at h
  · cases h
  · rename_i a b hsel
    obtain ⟨hs, hw⟩ := selectable_of_selection hsel
    cases h
    exact ⟨hs, by rw [hw]; rfl⟩

theorem markLiteral_inv {f f' : FoldedText} {start stop : Int}
    (h : f.markLiteral start stop = .ok f') : f.Selectable start stop ∧
      f' = { f with spans :=
        Span.subtract f.spans (f.widened start stop).start (f.widened start stop).stop } := by
  unfold markLiteral at h
  split at h
  · cases h
  · rename_i a b hsel
    obtain ⟨hs, hw⟩ := selectable_of_selection hsel
    cases h
    exact ⟨hs, by rw [hw]; rfl⟩

/-! ## Editing -/

/-- The pieces whose places are picked out go, and those around them stay in order. -/
theorem dropPieces_eq {gone : Nat → Bool} {a b : Nat} (hab : a ≤ b)
    (hgone : ∀ k, gone k = true ↔ a ≤ k ∧ k < b) (place : Nat) (ps : List Text) :
    dropPieces gone place ps = ps.take (a - place) ++ ps.drop (b - place) := by
  induction ps generalizing place with
  | nil => simp [dropPieces]
  | cons p ps ih =>
    have hg := hgone place
    rw [dropPieces, ih]
    split
    · rename_i h
      have hin := hg.1 h
      rw [show a - place = 0 by omega, show a - (place + 1) = 0 by omega,
        show b - place = b - (place + 1) + 1 by omega]
      rfl
    · rename_i h
      have hout : ¬ (a ≤ place ∧ place < b) := fun hin => h (hg.2 hin)
      by_cases hp : place < a
      · rw [show a - place = a - (place + 1) + 1 by omega,
          show b - place = b - (place + 1) + 1 by omega]
        rfl
      · rw [show a - place = 0 by omega, show a - (place + 1) = 0 by omega,
          show b - place = 0 by omega, show b - (place + 1) = 0 by omega]
        rfl

/-- The folded text with the stretch between two texts replaced. -/
def replaced (f : FoldedText) (l m r t : Text) : FoldedText where
  buffer := l ++ t ++ r
  pieces := f.pieces.take (count (glyphs l)) ++
    f.pieces.drop (count (glyphs l) + count (glyphs m))
  spans := Span.remap f.spans l.length (l ++ m).length t.length

namespace Stretch

variable {f : FoldedText} {l m r : Text}

theorem token_inside_iff (h : f.Stretch l m r) (place : Nat) :
    ((tokens f.buffer)[place]?.any fun pos => l.length ≤ pos && pos + 3 ≤ (l ++ m).length) = true ↔
      count (glyphs l) ≤ place ∧ place < count (glyphs l) + count (glyphs m) := by
  have hl : (startsFrom 0 (glyphs l)).length = count (glyphs l) := Glyph.startsFrom_length ..
  have hm : (startsFrom l.length (glyphs m)).length = count (glyphs m) :=
    Glyph.startsFrom_length ..
  rw [h.tokens_eq, List.append_assoc]
  by_cases hbefore : place < count (glyphs l)
  · rw [List.getElem?_append_left (by omega), List.getElem?_eq_getElem (by omega)]
    have := Glyph.mem_startsFrom (List.getElem_mem (l := startsFrom 0 (glyphs l)) (n := place)
      (by omega))
    rw [width_glyphs] at this
    simp only [Option.any_some, Bool.and_eq_true, decide_eq_true_eq]
    omega
  · rw [List.getElem?_append_right (by omega), hl]
    by_cases hinside : place < count (glyphs l) + count (glyphs m)
    · rw [List.getElem?_append_left (by omega), List.getElem?_eq_getElem (by omega)]
      have := Glyph.mem_startsFrom (List.getElem_mem (l := startsFrom l.length (glyphs m))
        (n := place - count (glyphs l)) (by omega))
      rw [width_glyphs] at this
      simp only [Option.any_some, Bool.and_eq_true, decide_eq_true_eq, List.length_append]
      omega
    · rw [List.getElem?_append_right (by omega)]
      refine iff_of_false (fun hany => ?_) (by omega)
      obtain ⟨pos, hpos, hin⟩ := (Option.any_eq_true ..).1 hany
      have := Glyph.mem_startsFrom (List.mem_of_getElem? hpos)
      simp only [Bool.and_eq_true, decide_eq_true_eq] at hin
      omega

/-- As many tokens as were left make sure that each of them was there before. -/
theorem glyphs_replaced (h : f.Stretch l m r) {t : Text} (ht : Text.occursIn token t = false)
    (hcount : tokenCount (l ++ t ++ r) = f.foldCount - count (glyphs m)) :
    glyphs (l ++ t ++ r) = glyphs l ++ chars t ++ glyphs r := by
  rw [tokenCount_eq, h.foldCount_eq] at hcount
  exact glyphs_insert ht (by omega)

end Stretch

/-- What is known of an edit that is made: it cuts no token and makes none. -/
theorem edit_inv {f f' : FoldedText} {start stop : Int} {t : Text}
    (h : f.edit start stop t = .ok f') : ∃ l m r, f.Stretch l m r ∧
      (l.length : Int) = min start stop ∧ ((l ++ m).length : Int) = max start stop ∧
      glyphs (l ++ t ++ r) = glyphs l ++ chars t ++ glyphs r ∧ f' = f.replaced l m r t := by
  unfold edit at h
  dsimp only at h
  split at h
  · cases h
  · rename_i hbounds
    obtain ⟨l, m, r, heq, hl, hm⟩ := exists_stretch f.buffer
      (a := (min start stop).toNat) (b := (max start stop).toNat) (by omega) (by omega)
    have ha : min start stop = l.length := by omega
    have hb : max start stop = (l ++ m).length := by omega
    have hinside : (fun pos : Nat => decide ((l.length : Int) ≤ pos) &&
        decide ((pos : Int) + 3 ≤ (l ++ m).length)) =
          fun pos => decide (l.length ≤ pos) && decide (pos + 3 ≤ (l ++ m).length) := by
      funext pos
      rw [Bool.eq_iff_iff]
      simp only [Bool.and_eq_true, decide_eq_true_eq]
      omega
    rw [ha, hb, hinside, Int.toNat_natCast, Int.toNat_natCast] at h
    split at h
    · cases h
    · rename_i hocc
      split at h
      · cases h
      · rename_i hsnap
        have hst := stretch_of_snap heq (Decidable.not_not.1 hsnap)
        rw [hst.filter_inside, Glyph.startsFrom_length, ← tokenCount, ← foldCount,
          dropPieces_eq (Nat.le_add_right _ _) hst.token_inside_iff, heq, splice_append] at h
        split at h
        · cases h
        · rename_i hcount
          cases h
          exact ⟨l, m, r, hst, ha.symm, hb.symm, hst.glyphs_replaced (by simpa using hocc)
            (Decidable.not_not.1 hcount), rfl⟩

/-- The order of the two ends does not matter to an edit. -/
theorem edit_min_max (f : FoldedText) (start stop : Int) (t : Text) :
    f.edit (min start stop) (max start stop) t = f.edit start stop t := by
  have hmin : min (min start stop) (max start stop) = min start stop := by omega
  have hmax : max (min start stop) (max start stop) = max start stop := by omega
  rw [edit, edit, hmin, hmax]

/-- An edit that is made, in offsets of the buffer. -/
theorem edit_turns {f f' : FoldedText} {start stop : Int} {t : Text}
    (h : f.edit start stop t = .ok f') : ∃ a b : Nat, (a : Int) = min start stop ∧
      (b : Int) = max start stop ∧ (⟨a, b, t⟩ : Edit).Turns f.buffer f'.buffer ∧
        f.edit a b t = .ok f' := by
  obtain ⟨l, m, r, hst, hl, hm, -, hf⟩ := edit_inv h
  have hedit := f.edit_min_max start stop t
  rw [← hl, ← hm, h] at hedit
  refine ⟨l.length, (l ++ m).length, hl, hm, ⟨?_, ?_, ?_⟩, hedit⟩
  · rw [List.length_append]
    exact Nat.le_add_right ..
  · rw [hst.buffer_eq]
    exact (List.prefix_append (l ++ m) r).length_le
  · rw [hf, hst.buffer_eq]
    exact splice_append l m r t

/-- What an edit removes from the fold table: the pieces from the one for the first token in the
stretch to before the one for the first token behind it. There are as many tokens less. -/
theorem edit_places {f f' : FoldedText} {start stop : Nat} {t : Text} (hle : start ≤ stop)
    (h : f.edit start stop t = .ok f') : f.tokensBefore start ≤ f.tokensBefore stop ∧
      f'.foldCount + f.tokensBefore stop = f.foldCount + f.tokensBefore start ∧
      f'.pieces = f.pieces.take (f.tokensBefore start) ++ f.pieces.drop (f.tokensBefore stop) := by
  obtain ⟨l, m, r, hst, hl, hm, hglyphs, rfl⟩ := edit_inv h
  obtain rfl : start = l.length := by omega
  obtain rfl : stop = (l ++ m).length := by omega
  have hcount : (f.replaced l m r t).foldCount = count (glyphs l) + count (glyphs r) := by
    rw [foldCount, tokenCount_eq, replaced, hglyphs, Glyph.count_append, Glyph.count_append,
      Glyph.count_chars, Nat.add_zero]
  rw [hst.tokensBefore_start, hst.tokensBefore_stop, hcount, hst.foldCount_eq]
  exact ⟨Nat.le_add_right .., by omega, rfl⟩

/-- What is put in removes no token. -/
theorem pieces_edit_empty {f f' : FoldedText} {start : Nat} {t : Text}
    (h : f.edit start start t = .ok f') : f'.pieces = f.pieces := by
  rw [(edit_places (Nat.le_refl start) h).2.2, List.take_append_drop]

end CitationStudio.FoldedText
