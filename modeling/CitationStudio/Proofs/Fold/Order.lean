import CitationStudio.Proofs.Fold.Expanded
import CitationStudio.Proofs.Span.Uncut

/-! # Two folds in either order

Two stretches that lie apart can be folded one after the other, whichever comes first. Folding one
puts a token between what is before it and what is behind it, and the other is read as it was, in
its old place or moved by the difference in length. It finds the same pieces for its tokens, counted
from another place if the first fold was before it, and it cuts no mark. So both ways lead to the
same buffer, pieces and marks. -/

namespace CitationStudio.FoldedText

open Fold
open Fold.Glyph (count)

/-! ## Pieces of a stretch -/

theorem paddedPieces_eq_self {f : FoldedText} (h : f.foldCount ≤ f.pieces.length) :
    f.paddedPieces = f.pieces := by
  rw [paddedPieces, Nat.sub_eq_zero_of_le h, List.replicate_zero, List.append_nil]

/-- The first pieces, as many as are asked for. -/
theorem exists_first (ps : List Text) {n : Nat} (h : n ≤ ps.length) :
    ∃ qs rs, ps = qs ++ rs ∧ qs.length = n :=
  ⟨ps.take n, ps.drop n, (List.take_append_drop n ps).symm, List.length_take_of_le h⟩

namespace Stretch

variable {f : FoldedText} {l m r : Text}

theorem paddedPieces_foldAt (h : f.Stretch l m r) :
    (f.foldAt l.length (l ++ m).length).paddedPieces =
      (f.foldAt l.length (l ++ m).length).pieces := by
  have hpadded := f.foldCount_le_padded
  have hcount := h.foldAt_foldCount
  have hpieces := h.foldAt_pieces_length
  exact paddedPieces_eq_self (by omega)

/-- A fold expands the pieces of the tokens in the stretch into the new one, and leaves the pieces
before them and behind them. -/
theorem foldAt_parts (h : f.Stretch l m r) {before inside after : List Text}
    (hp : f.paddedPieces = before ++ inside ++ after) (hbefore : before.length = count (glyphs l))
    (hinside : inside.length = count (glyphs m)) :
    f.foldAt l.length (l ++ m).length = ⟨l ++ token ++ r, before ++ expand m inside :: after,
      Span.remap f.spans l.length (l ++ m).length 3⟩ := by
  have hlength : (before ++ inside).length = count (glyphs l) + count (glyphs m) := by
    rw [List.length_append, hbefore, hinside]
  rw [h.foldAt_padded, hp, List.drop_left' hlength, List.append_assoc before,
    List.take_left' hbefore, List.drop_left' hbefore, List.take_left' hinside]

end Stretch

/-! ## Two stretches -/

/-- Two stretches that lie apart, with a text between them that may be empty. -/
structure Apart (f : FoldedText) (l m k n r : Text) : Prop where
  first : f.Stretch l m (k ++ n ++ r)
  second : f.Stretch (l ++ m ++ k) n r

theorem exists_apart {f : FoldedText} {l m r l' m' r' : Text} (h : f.Stretch l m r)
    (h' : f.Stretch l' m' r') (hle : (l ++ m).length ≤ l'.length) :
    ∃ k, l' = l ++ m ++ k ∧ f.Apart l m k m' r' := by
  have heq : l ++ m ++ r = l' ++ (m' ++ r') := by
    rw [← h.buffer_eq, h'.buffer_eq, List.append_assoc]
  obtain ⟨k, rfl⟩ := List.prefix_of_prefix_length_le ⟨r, heq⟩ (List.prefix_append ..) hle
  rw [List.append_assoc (l ++ m)] at heq
  obtain rfl := List.append_cancel_left heq
  refine ⟨k, rfl, ?_, h'⟩
  rwa [List.append_assoc]

namespace Apart

variable {f : FoldedText} {l m k n r : Text}

theorem glyphs_left (h : f.Apart l m k n r) :
    glyphs (l ++ m ++ k) = glyphs l ++ glyphs m ++ glyphs k := by
  have hstop := h.first.seam_stop
  rw [List.append_assoc] at hstop
  have hlm := (seam_between h.first.seam_start h.first.seam_stop).1
  have hk := (seam_between hstop h.second.seam_start).1
  rw [hk, hlm]

theorem glyphs_right (h : f.Apart l m k n r) :
    glyphs (k ++ n ++ r) = glyphs k ++ glyphs n ++ glyphs r := by
  have hstop := h.first.seam_stop
  rw [List.append_assoc] at hstop
  have hk := (seam_between hstop h.second.seam_start).2
  have hn := (seam_between h.second.seam_start h.second.seam_stop).2
  rw [List.append_assoc, hk, hn, List.append_assoc]

theorem stretch_second (h : f.Apart l m k n r) :
    (f.foldAt l.length (l ++ m).length).Stretch (l ++ token ++ k) n r := by
  constructor
  · rw [h.first.foldAt_eq]
    simp only [List.append_assoc]
  · rw [h.first.foldAt_glyphs, h.glyphs_right, glyphs_insert_token]
    simp only [List.append_assoc, List.cons_append]

theorem stretch_first (h : f.Apart l m k n r) :
    (f.foldAt (l ++ m ++ k).length (l ++ m ++ k ++ n).length).Stretch l m (k ++ token ++ r) := by
  constructor
  · rw [h.second.foldAt_eq]
    simp only [List.append_assoc]
  · rw [h.second.foldAt_glyphs, h.glyphs_left, glyphs_insert_token]
    simp only [List.append_assoc]

/-- The pieces of the tokens in each of the five texts, and those beyond. -/
theorem exists_parts (h : f.Apart l m k n r) : ∃ pl pm pk pn ps,
    f.paddedPieces = pl ++ pm ++ pk ++ pn ++ ps ∧ pl.length = count (glyphs l) ∧
      pm.length = count (glyphs m) ∧ pk.length = count (glyphs k) ∧
        pn.length = count (glyphs n) := by
  have hcount := f.foldCount_le_padded
  rw [h.second.foldCount_eq, h.glyphs_left, Glyph.count_append, Glyph.count_append] at hcount
  obtain ⟨pl, qs, hps, hpl⟩ := exists_first f.paddedPieces (n := count (glyphs l)) (by omega)
  rw [hps, List.length_append, hpl] at hcount
  obtain ⟨pm, qs, rfl, hpm⟩ := exists_first qs (n := count (glyphs m)) (by omega)
  rw [List.length_append, hpm] at hcount
  obtain ⟨pk, qs, rfl, hpk⟩ := exists_first qs (n := count (glyphs k)) (by omega)
  rw [List.length_append, hpk] at hcount
  obtain ⟨pn, qs, rfl, hpn⟩ := exists_first qs (n := count (glyphs n)) (by omega)
  refine ⟨pl, pm, pk, pn, qs, ?_, hpl, hpm, hpk, hpn⟩
  rw [hps]
  simp only [List.append_assoc]

theorem length_left : (l ++ m ++ k).length = (l ++ m).length + k.length := List.length_append

theorem length_until :
    (l ++ m ++ k ++ n).length = (l ++ m).length + (k.length + n.length) := by
  rw [List.length_append, length_left, Nat.add_assoc]

theorem length_left_token : (l ++ token ++ k).length = l.length + 3 + k.length := by
  rw [List.length_append, List.length_append]
  rfl

theorem length_until_token :
    (l ++ token ++ k ++ n).length = l.length + 3 + (k.length + n.length) := by
  rw [List.length_append, length_left_token, Nat.add_assoc]

theorem uncut_first (hc : Span.Canonical f.spans)
    (hu : Span.Uncut f.spans l.length (l ++ m).length) :
    Span.Uncut (f.foldAt (l ++ m ++ k).length (l ++ m ++ k ++ n).length).spans l.length
      (l ++ m).length := by
  refine Span.uncut_remap_before hc hu ?_ ?_ (by decide)
  · rw [length_left]
    omega
  · rw [length_left, length_until]
    omega

theorem uncut_second (hc : Span.Canonical f.spans)
    (hu : Span.Uncut f.spans (l ++ m ++ k).length (l ++ m ++ k ++ n).length) :
    Span.Uncut (f.foldAt l.length (l ++ m).length).spans (l ++ token ++ k).length
      (l ++ token ++ k ++ n).length := by
  rw [length_left, length_until] at hu
  rw [length_left_token, length_until_token]
  refine Span.uncut_remap_after hc ?_ hu
  rw [List.length_append]
  omega

/-- The marks do not depend on which stretch is folded first. -/
theorem spans_comm (hc : Span.Canonical f.spans) (hm : m ≠ []) (hn : n ≠ [])
    (hu : Span.Uncut f.spans l.length (l ++ m).length)
    (hu' : Span.Uncut f.spans (l ++ m ++ k).length (l ++ m ++ k ++ n).length) :
    Span.remap (f.foldAt (l ++ m ++ k).length (l ++ m ++ k ++ n).length).spans l.length
        (l ++ m).length 3 =
      Span.remap (f.foldAt l.length (l ++ m).length).spans (l ++ token ++ k).length
        (l ++ token ++ k ++ n).length 3 := by
  have hmpos := List.length_pos_iff.2 hm
  have hnpos := List.length_pos_iff.2 hn
  rw [length_left, length_until] at hu' ⊢
  rw [length_left_token, length_until_token]
  refine Span.remap_comm hc ?_ (by omega) hu hu' 3 3
  rw [List.length_append]
  omega

/-- **Folds of stretches that lie apart commute.** -/
theorem foldAt_comm (h : f.Apart l m k n r) (hc : Span.Canonical f.spans) (hm : m ≠ [])
    (hn : n ≠ []) (hu : Span.Uncut f.spans l.length (l ++ m).length)
    (hu' : Span.Uncut f.spans (l ++ m ++ k).length (l ++ m ++ k ++ n).length) :
    (f.foldAt (l ++ m ++ k).length (l ++ m ++ k ++ n).length).foldAt l.length (l ++ m).length =
      (f.foldAt l.length (l ++ m).length).foldAt (l ++ token ++ k).length
        (l ++ token ++ k ++ n).length := by
  obtain ⟨pl, pm, pk, pn, ps, hps, hpl, hpm, hpk, hpn⟩ := h.exists_parts
  have hparts : f.paddedPieces = pl ++ pm ++ (pk ++ pn ++ ps) := by
    rw [hps]
    simp only [List.append_assoc]
  have hleft : (pl ++ pm ++ pk).length = count (glyphs (l ++ m ++ k)) := by
    rw [h.glyphs_left, Glyph.count_append, Glyph.count_append, List.length_append,
      List.length_append, hpl, hpm, hpk]
  have hleft' : (pl ++ expand m pm :: pk).length = count (glyphs (l ++ token ++ k)) := by
    rw [glyphs_insert_token, Glyph.count_append, Glyph.count, List.length_append, List.length_cons,
      hpl, hpk]
  -- the pieces that the later fold finds, with the first stretch folded and with the second
  have hpadded : (f.foldAt l.length (l ++ m).length).paddedPieces =
      (pl ++ expand m pm :: pk) ++ pn ++ ps := by
    rw [h.first.paddedPieces_foldAt, h.first.foldAt_parts hparts hpl hpm]
    simp only [List.append_assoc, List.cons_append]
  have hpadded' : (f.foldAt (l ++ m ++ k).length (l ++ m ++ k ++ n).length).paddedPieces =
      pl ++ pm ++ (pk ++ expand n pn :: ps) := by
    rw [h.second.paddedPieces_foldAt, h.second.foldAt_parts hps hleft hpn]
    simp only [List.append_assoc]
  rw [h.stretch_first.foldAt_parts hpadded' hpl hpm,
    h.stretch_second.foldAt_parts hpadded hleft' hpn, spans_comm hc hm hn hu hu']
  simp only [List.append_assoc, List.cons_append]

end Apart

/-- **Folding two selections that lie apart gives the same text in either order.** If each of them
is folded, so is the one with the other folded. The second selection is moved by the difference in
length once the first is folded. -/
theorem fold_comm {f g g' : FoldedText} (hc : Span.Canonical f.spans) {a b c d : Int} (hab : a ≤ b)
    (hbc : b ≤ c) (hcd : c ≤ d) (hfirst : f.fold a b = .ok g) (hsecond : f.fold c d = .ok g') :
    ∃ f', g'.fold a b = .ok f' ∧
      g.fold (c - (b - a) + 3) (d - (b - a) + 3) = .ok f' := by
  obtain ⟨l, m, r, hs, hm, hl, hlm, hbalanced, hu, rfl⟩ := fold_inv hfirst
  obtain ⟨l', n, r', hs', hn, hl', hln, hbalanced', hu', rfl⟩ := fold_inv hsecond
  obtain ⟨k, rfl, h⟩ := exists_apart hs hs' (by omega)
  rw [Apart.length_left] at hl'
  rw [Apart.length_until] at hln
  refine ⟨_, h.stretch_first.fold_eq hm hbalanced (Apart.uncut_first hc hu) (by omega) (by omega),
    ?_⟩
  rw [h.foldAt_comm hc hm hn hu hu']
  refine h.stretch_second.fold_eq hn hbalanced' (Apart.uncut_second hc hu') ?_ ?_
  · rw [Apart.length_left_token]
    omega
  · rw [Apart.length_until_token]
    omega

/-- The first selection is marked as a whole, and holds a token with a piece. The second is inside a
mark, and holds a token without one. -/
theorem fold_comm_marked :
    let f : FoldedText := ⟨"a[*]-b[*]c".toList, ["xy".toList], [⟨0, 4⟩, ⟨5, 10⟩]⟩
    let g : FoldedText := ⟨"[*]-b[*]c".toList, ["axy".toList, "[*]".toList], [⟨0, 3⟩, ⟨4, 9⟩]⟩
    let g' : FoldedText := ⟨"a[*]-[*]c".toList, ["xy".toList, "b[*]".toList], [⟨0, 4⟩, ⟨5, 9⟩]⟩
    let f' : FoldedText := ⟨"[*]-[*]c".toList, ["axy".toList, "b[*]".toList], [⟨0, 3⟩, ⟨4, 8⟩]⟩
    Span.Canonical f.spans ∧ f.fold 0 4 = .ok g ∧ f.fold 5 9 = .ok g' ∧ g'.fold 0 4 = .ok f' ∧
      g.fold 4 8 = .ok f' := by
  intro f g g' f'
  have hc : Span.Canonical f.spans := by decide
  have hfirst : f.fold 0 4 = .ok g := by rfl
  have hsecond : f.fold 5 9 = .ok g' := by rfl
  have hboth : g'.fold 0 4 = .ok f' := by rfl
  obtain ⟨u, hu, hu'⟩ := fold_comm hc (by decide) (by decide) (by decide) hfirst hsecond
  rw [hboth, Except.ok.injEq] at hu
  exact ⟨hc, hfirst, hsecond, hboth, hu ▸ hu'⟩

end CitationStudio.FoldedText
