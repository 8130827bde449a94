import CitationStudio.Proofs.Fold.Accepted

/-! # Marks stay where the text is

The marks of a folded text are canonical and lie in its buffer. Every operation merges the spans
it leaves, which makes them canonical even if they were not; that they lie in the buffer is shown
for each. -/

namespace CitationStudio.FoldedText

open Fold

/-- The marks are canonical and lie in the buffer. -/
structure Sound (f : FoldedText) : Prop where
  canonical : Span.Canonical f.spans
  within : Span.Within f.buffer.length f.spans

instance (f : FoldedText) : Decidable f.Sound :=
  decidable_of_iff (Span.Canonical f.spans ∧ Span.Within f.buffer.length f.spans)
    ⟨fun h => ⟨h.1, h.2⟩, fun h => ⟨h.canonical, h.within⟩⟩

/-- The marks lie in the buffer, in any order. They may be empty or overlap. -/
def InBounds (f : FoldedText) : Prop :=
  ∀ s ∈ f.spans, s.LiesIn f.buffer.length

instance (f : FoldedText) : Decidable f.InBounds :=
  inferInstanceAs (Decidable (∀ s ∈ f.spans, s.LiesIn f.buffer.length))

theorem Sound.inBounds {f : FoldedText} (h : f.Sound) : f.InBounds := fun s hs =>
  ⟨(h.within s hs).1, Int.le_of_lt (h.canonical.nonempty hs), (h.within s hs).2⟩

theorem InBounds.within {f : FoldedText} (h : f.InBounds) :
    Span.Within f.buffer.length f.spans := fun s hs => ⟨(h s hs).nonneg, (h s hs).le⟩

theorem sound_ofText (t : Text) : (ofText t).Sound := ⟨.nil, Span.within_nil⟩

/-! ## Marking -/

theorem sound_markExpr {f f' : FoldedText} {start stop : Int}
    (h : f.markExpr start stop = .ok f') (hs : f.InBounds) : f'.Sound := by
  obtain ⟨hsel, rfl⟩ := markExpr_inv h
  have hw := hsel.widened_liesIn
  exact ⟨Span.canonical_merge _, Span.within_merge
    (Span.within_append hs.within (Span.within_cons.2 ⟨⟨hw.nonneg, hw.le⟩, Span.within_nil⟩))⟩

theorem sound_markLiteral {f f' : FoldedText} {start stop : Int}
    (h : f.markLiteral start stop = .ok f') (hs : f.InBounds) : f'.Sound := by
  obtain ⟨-, rfl⟩ := markLiteral_inv h
  exact ⟨Span.canonical_merge _, Span.within_subtract hs.within _ _⟩

/-! ## Editing and folding -/

/-- Marks stay in the buffer when a stretch of it is replaced. -/
theorem Stretch.within_remap {f : FoldedText} {l m r : Text} (h : f.Stretch l m r)
    (hs : f.InBounds) (t : Text) : Span.Within (l ++ t ++ r).length
      (Span.remap f.spans l.length (l ++ m).length t.length) := by
  have hlength : f.buffer.length = (l ++ m).length + r.length := by
    rw [h.buffer_eq, List.length_append]
  have hw := Span.within_remap hs.within l.length (l ++ m).length t.length (by omega) (by omega)
    (by omega)
  have hnew : ((l ++ t ++ r).length : Int) =
      f.buffer.length - ((l ++ m).length - l.length) + t.length := by
    rw [hlength]
    simp only [List.length_append]
    omega
  rwa [← hnew] at hw

theorem sound_edit {f f' : FoldedText} {start stop : Int} {inserted : Text}
    (h : f.edit start stop inserted = .ok f') (hs : f.InBounds) : f'.Sound := by
  obtain ⟨l, m, r, hst, -, -, -, rfl⟩ := edit_inv h
  exact ⟨Span.canonical_merge _, hst.within_remap hs inserted⟩

theorem Stretch.sound_foldAt {f : FoldedText} {l m r : Text} (h : f.Stretch l m r)
    (hs : f.InBounds) : (f.foldAt l.length (l ++ m).length).Sound := by
  rw [h.foldAt_eq]
  exact ⟨Span.canonical_merge _, h.within_remap hs token⟩

theorem sound_fold {f f' : FoldedText} {start stop : Int} (h : f.fold start stop = .ok f')
    (hs : f.InBounds) : f'.Sound := by
  obtain ⟨l, m, r, hst, -, -, -, -, -, rfl⟩ := fold_inv h
  exact hst.sound_foldAt hs

theorem within_expandedSpans (f : FoldedText) :
    Span.Within f.expanded.length f.expandedSpans := by
  have hpos (i : Int) : (if i < 0 then f.expanded.length
      else ((offsets f.buffer f.pieces)[i.toNat]?).getD f.expanded.length) ≤
        f.expanded.length := by
    split
    · exact Nat.le_refl _
    · cases hx : (offsets f.buffer f.pieces)[i.toNat]? with
      | none => exact Nat.le_refl _
      | some x =>
        have hm := List.mem_of_getElem? hx
        rw [offsets, offsetsFrom_eq] at hm
        have := (Glyph.mem_offsetsFrom hm).2
        rw [Option.getD_some, expanded, expand_eq]
        omega
  intro s hs
  obtain ⟨s', -, rfl⟩ := List.mem_map.1 hs
  have h1 := hpos s'.start
  have h2 := hpos s'.stop
  rw [expandSpan]
  dsimp only
  omega

theorem sound_unfold (f : FoldedText) : f.unfold.Sound :=
  ⟨Span.canonical_merge _, Span.within_merge f.within_expandedSpans⟩

end CitationStudio.FoldedText
