import CitationStudio.Proofs.Fold.Expanded
import CitationStudio.Proofs.Fold.Owner
import CitationStudio.Proofs.Span.Uncut

/-! # What a fold does to the document

A fold does two things to the kinds of the expanded text. It puts a token in the place of a
stretch that is marked as a whole or not at all, which changes the kind of no character. But
before that it pads the pieces, so that tokens that stood for themselves become folds: their three
characters were marked one by one, and are now all of the kind of the last. The document stays as
it is exactly if they were all of one kind before. -/

namespace CitationStudio

open Span (Covers remap)

namespace Document

theorem kinds_uncut {spans : List Span} {a b : Nat} (h : Span.Uncut spans a b) {ws : List Nat}
    (hw : ∀ w ∈ ws, a ≤ w ∧ w < b) :
    kinds spans ws = List.replicate ws.length (kindAround spans a b) :=
  List.map_eq_replicate_iff.2 fun w hm => kindAt_eq_kindAround
    (Span.covers_uncut h (by have := hw w hm; omega) (by have := hw w hm; omega))

end Document

namespace Fold.Glyph

/-- Tokens without a piece can be given themselves for a piece, as far as the owners' values go,
if the three characters of each have one value. -/
theorem map_ownersFrom_padded {α : Type} (k : Nat → α) (offset : Nat) (gs : List Glyph)
    (ps : List Text) :
    (ownersFrom offset gs (ps ++ List.replicate (count gs - ps.length) Fold.token)).map k =
        (ownersFrom offset gs ps).map k ↔
      ∀ pos ∈ (startsFrom offset gs).drop ps.length,
        k pos = k (pos + 2) ∧ k (pos + 1) = k (pos + 2) := by
  fun_induction ownersFrom offset gs ps with
  | case1 => simp [ownersFrom, startsFrom]
  | case2 offset gs p ps ih =>
    have hn : count (token :: gs) - (p :: ps).length = count gs - ps.length := by
      rw [count, List.length_cons, Nat.add_sub_add_right]
    rw [hn, List.cons_append, ownersFrom, List.map_append, List.map_append,
      List.append_right_inj, ih, startsFrom, List.length_cons, List.drop_succ_cons]
  | case3 offset gs ih =>
    rw [List.length_nil, Nat.sub_zero, List.nil_append, List.drop_zero] at ih
    rw [List.length_nil, Nat.sub_zero, List.nil_append, count, List.replicate_succ, ownersFrom,
      startsFrom, List.drop_zero, List.forall_mem_cons, ← ih, List.map_append, List.map_replicate]
    -- the piece has three characters, all of them owned by the last
    show k (offset + 2) :: k (offset + 2) :: k (offset + 2) :: _ = _ ↔ _
    simp only [List.map_cons, List.cons.injEq, true_and]
    constructor
    · rintro ⟨h0, h1, h⟩
      exact ⟨⟨h0.symm, h1.symm⟩, h⟩
    · rintro ⟨⟨h0, h1⟩, h⟩
      exact ⟨h0.symm, h1.symm, h⟩
  | case4 offset c gs ps ih =>
    rw [count, ownersFrom, List.map_cons, List.map_cons, List.cons.injEq, startsFrom, ih]
    exact and_iff_right rfl

end Fold.Glyph

namespace FoldedText

open Fold
open Fold.Glyph (count ownersFrom)

/-- The tokens beyond the pieces, which stand for themselves. -/
def orphans (f : FoldedText) : List Nat := (tokens f.buffer).drop f.pieces.length

/-- No mark starts or stops inside a token that stands for itself. -/
def OrphansWhole (f : FoldedText) : Prop :=
  ∀ pos ∈ f.orphans, ∀ s ∈ f.spans,
    ¬ (pos < s.start ∧ s.start < pos + 3) ∧ ¬ (pos < s.stop ∧ s.stop < pos + 3)

instance (f : FoldedText) : Decidable f.OrphansWhole :=
  inferInstanceAs (Decidable (∀ pos ∈ f.orphans, ∀ s ∈ f.spans, _ ∧ _))

/-- The owners when every token has a piece. -/
def paddedOwners (f : FoldedText) : List Nat := ownersFrom 0 (glyphs f.buffer) f.paddedPieces

/-- Padding keeps the kinds of all characters if the tokens it takes in are of one kind each. -/
theorem kinds_padded_iff {f : FoldedText} (h : f.Sound) :
    Document.kinds f.spans f.paddedOwners = Document.kinds f.spans f.owners ↔
      f.OrphansWhole := by
  have hp := Glyph.map_ownersFrom_padded (fun i : Nat => Document.kindAt f.spans i) 0
    (glyphs f.buffer) f.pieces
  rw [← tokensFrom_eq, ← tokenCount_eq] at hp
  refine hp.trans (forall₂_congr fun pos _ => ?_)
  have h0 := h.canonical.covers_next pos
  have h1 := h.canonical.covers_next (pos + 1)
  rw [Document.kindAt_eq_iff, Document.kindAt_eq_iff]
  rw [show (pos : Int) + 1 + 1 = ↑(pos + 2) by omega] at h1
  rw [show (pos : Int) + 1 = ↑(pos + 1) by omega] at h0 h1
  constructor
  · rintro ⟨ha, hb⟩ s hs
    have hs0 := h0.1 (ha.trans hb.symm) s hs
    have hs1 := h1.1 hb s hs
    omega
  · intro hw
    have hb := h1.2 fun s hs => by
      have := hw s hs
      omega
    have ha := h0.2 fun s hs => by
      have := hw s hs
      omega
    exact ⟨ha.trans hb, hb⟩

theorem length_piece (f : FoldedText) (l m : Text) :
    (ownersFrom l.length (glyphs m) (f.paddedPieces.drop (count (glyphs l)))).length =
      (Glyph.expand (glyphs m) (f.pieces.drop (count (glyphs l)))).length := by
  rw [Glyph.ownersFrom_length]
  refine congrArg List.length (Glyph.expand_congr fun k _ => ?_)
  rw [List.getElem?_drop, List.getElem?_drop, paddedPieces_getD, standsFor]

namespace Stretch

variable {f : FoldedText} {l m r : Text}

theorem owners_foldAt (h : f.Stretch l m r) : (f.foldAt l.length (l ++ m).length).owners =
    ownersFrom 0 (glyphs l) f.paddedPieces ++
      (List.replicate (Glyph.expand (glyphs m) (f.pieces.drop (count (glyphs l)))).length
        (l.length + 2) ++
      ownersFrom (l.length + 3) (glyphs r)
        (f.paddedPieces.drop (count (glyphs l) + count (glyphs m)))) := by
  have hc := h.length_take_padded
  rw [owners, h.foldAt_glyphs, Glyph.ownersFrom_append, h.foldAt_eq]
  simp only
  rw [List.drop_left' hc, ← Glyph.ownersFrom_take 0, List.take_left' hc, Glyph.ownersFrom_take,
    width_glyphs, Nat.zero_add]
  rfl

theorem paddedOwners_eq (h : f.Stretch l m r) : f.paddedOwners =
    ownersFrom 0 (glyphs l) f.paddedPieces ++
      (ownersFrom l.length (glyphs m) (f.paddedPieces.drop (count (glyphs l))) ++
      ownersFrom (l ++ m).length (glyphs r)
        (f.paddedPieces.drop (count (glyphs l) + count (glyphs m)))) := by
  rw [paddedOwners, h.glyphs_eq, Glyph.ownersFrom_append, Glyph.ownersFrom_append,
    Glyph.width_append, Glyph.count_append, width_glyphs, width_glyphs, Nat.zero_add, Nat.zero_add,
    ← List.length_append, List.append_assoc]

/-- **Once every token has a piece, a fold changes the kind of no character.** -/
theorem kinds_foldAt (h : f.Stretch l m r) (hu : Span.Uncut f.spans l.length (l ++ m).length) :
    Document.kinds (f.foldAt l.length (l ++ m).length).spans
        (f.foldAt l.length (l ++ m).length).owners =
      Document.kinds f.spans f.paddedOwners := by
  have hab : l.length ≤ (l ++ m).length := by
    rw [List.length_append]
    omega
  let spans := remap f.spans l.length (l ++ m).length 3
  -- the owners before, inside and after the new token, one after the other
  have hbefore : Document.kinds spans (ownersFrom 0 (glyphs l) f.paddedPieces) =
      Document.kinds f.spans (ownersFrom 0 (glyphs l) f.paddedPieces) :=
    Document.kinds_remap_before f.spans hab 3 fun w hw => by
      have hin := (Glyph.mem_ownersFrom hw).2
      rwa [width_glyphs, Nat.zero_add] at hin
  have hnew (n : Nat) : Document.kinds spans (List.replicate n (l.length + 2)) =
      List.replicate n (Document.kindAround f.spans l.length (l ++ m).length) := by
    have hin : ∀ w ∈ List.replicate n (l.length + 2), l.length ≤ w ∧ w < l.length + 3 := by
      intro w hw
      have := List.eq_of_mem_replicate hw
      omega
    exact (Document.kinds_remap_inside f.spans hab 3 hin).trans (by rw [List.length_replicate])
  have hold : Document.kinds f.spans
        (ownersFrom l.length (glyphs m) (f.paddedPieces.drop (count (glyphs l)))) =
      List.replicate (Glyph.expand (glyphs m) (f.pieces.drop (count (glyphs l)))).length
        (Document.kindAround f.spans l.length (l ++ m).length) := by
    rw [← f.length_piece l m]
    refine Document.kinds_uncut hu fun w hw => ?_
    have hin := Glyph.mem_ownersFrom hw
    rwa [width_glyphs, ← List.length_append] at hin
  have hafter (ps : List Text) :
      Document.kinds spans (ownersFrom (l.length + 3) (glyphs r) ps) =
        Document.kinds f.spans (ownersFrom (l ++ m).length (glyphs r) ps) := by
    rw [Glyph.ownersFrom_zero (l.length + 3), Glyph.ownersFrom_zero (l ++ m).length]
    exact Document.kinds_remap_after f.spans hab 3 _
  rw [h.owners_foldAt, h.paddedOwners_eq]
  simp only [Document.kinds_append]
  rw [← hbefore, hold, ← hnew, ← hafter]
  rfl

end Stretch

/-- **When a fold shows in the document.** An accepted fold leaves the document as it is if and
only if no mark starts or stops inside a token that stands for itself. -/
theorem document_fold_iff {f f' : FoldedText} (h : f.Sound) {start stop : Int}
    (hf : f.fold start stop = .ok f') : f'.document = f.document ↔ f.OrphansWhole := by
  obtain ⟨l, m, r, hs, -, -, -, -, hu, rfl⟩ := fold_inv hf
  rw [document_eq_iff h (hs.sound_foldAt h.inBounds) hs.foldAt_expanded, hs.kinds_foldAt hu]
  exact kinds_padded_iff h

end FoldedText

end CitationStudio
