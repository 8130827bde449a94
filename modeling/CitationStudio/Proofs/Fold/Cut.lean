import CitationStudio.Proofs.Fold.Glyph

/-! # Cutting a folded text

A folded text that is cut inside no token expands side by side: the tokens before the cut take the
first pieces and those behind it take the others, and the two expanded texts meet at the offset
that the cut is mapped to. So where a stretch of the folded text lies in the expanded text can be
read off the map alone. -/

namespace CitationStudio.Fold

/-- No offset is mapped to one before the offset that the one before it is mapped to. -/
theorem Glyph.offsetsFrom_ascending (length : Nat) (gs : List Glyph) (ps : List Text) :
    (offsetsFrom length gs ps).Pairwise (· ≤ ·) := by
  fun_induction offsetsFrom length gs ps with
  | case1 => exact List.pairwise_singleton _ _
  | case2 length gs p ps ih =>
    have hrest (x : Nat) (hx : x ∈ offsetsFrom (length + p.length) gs ps) : length ≤ x := by
      have := mem_offsetsFrom hx
      omega
    simpa using ⟨hrest, ih⟩
  | case3 length gs ih =>
    have hrest (a : Nat) (ha : a ≤ length + 3) (x : Nat)
        (hx : x ∈ offsetsFrom (length + 3) gs []) : a ≤ x :=
      Nat.le_trans ha (mem_offsetsFrom hx).1
    simp only [List.pairwise_cons, List.forall_mem_cons]
    exact ⟨⟨by omega, by omega, hrest _ (by omega)⟩, ⟨by omega, hrest _ (by omega)⟩,
      hrest _ (by omega), ih⟩
  | case4 length c gs ps ih =>
    refine List.pairwise_cons.2 ⟨fun x hx => ?_, ih⟩
    have := mem_offsetsFrom hx
    omega

/-- Glyphs look at no more pieces than they have tokens. -/
theorem Glyph.expand_take (gs : List Glyph) (ps : List Text) :
    expand gs (ps.take (count gs)) = expand gs ps :=
  expand_congr fun k hk => by rw [List.getElem?_take_of_lt hk]

section Seam

variable {l r : Text} (h : Seam l r) (ps : List Text)
include h

theorem Seam.tokens_before : ((tokens (l ++ r)).filter (· < l.length)).length = tokenCount l := by
  have hglyphs : glyphs (l ++ r) = glyphs l ++ glyphs r := h
  have hfirst := Glyph.startsFrom_filter_lt 0 (glyphs l) (glyphs r)
  rw [width_glyphs, Nat.zero_add, ← hglyphs, ← tokensFrom_eq] at hfirst
  rw [tokens, hfirst, Glyph.startsFrom_length, tokenCount_eq]

/-- Each side expands with its own pieces. -/
theorem Seam.expand_eq : expand (l ++ r) ps =
    expand l (ps.take (tokenCount l)) ++ expand r (ps.drop (tokenCount l)) := by
  have hglyphs : glyphs (l ++ r) = glyphs l ++ glyphs r := h
  rw [Fold.expand_eq, Fold.expand_eq, Fold.expand_eq, hglyphs, Glyph.expand_append, tokenCount_eq,
    Glyph.expand_take]

/-- The cut is mapped to the place where the two sides meet. -/
theorem Seam.offset : (offsets (l ++ r) ps)[l.length]? =
    some (expand l (ps.take (tokenCount l))).length := by
  have hglyphs : glyphs (l ++ r) = glyphs l ++ glyphs r := h
  have hwidth := Glyph.offsetsFrom_width 0 (glyphs l) (glyphs r) ps
  rw [width_glyphs, Nat.zero_add, ← hglyphs, ← offsetsFrom_eq] at hwidth
  rw [offsets, hwidth, Fold.expand_eq, tokenCount_eq, Glyph.expand_take]

end Seam

/-- **Expansion goes over every cut.** There is an entry for each offset of the folded text and one
for its end; they never decrease, and go from the start of the expanded text to its end. At an
offset inside no token, what comes before its entry is the expanded text of what comes before the
offset, with the pieces of the tokens that start there; and what comes after it is the expanded
text of what comes after, with the other pieces. -/
theorem expand_cut (t : Text) (ps : List Text) :
    (offsets t ps).length = t.length + 1 ∧ (offsets t ps).Pairwise (· ≤ ·) ∧
      (offsets t ps)[0]? = some 0 ∧ (offsets t ps)[t.length]? = some (expand t ps).length ∧
      ∀ c ≤ t.length, (∀ pos ∈ tokens t, ¬(pos < c ∧ c < pos + 3)) →
        ∃ x, (offsets t ps)[c]? = some x ∧
          let k := ((tokens t).filter (· < c)).length
          (expand t ps).take x = expand (t.take c) (ps.take k) ∧
            (expand t ps).drop x = expand (t.drop c) (ps.drop k) := by
  refine ⟨offsetsFrom_length 0 t ps, ?_, ?_, ?_, fun c hc hinside => ?_⟩
  · rw [offsets, offsetsFrom_eq]
    exact Glyph.offsetsFrom_ascending 0 (glyphs t) ps
  · rw [offsets, offsetsFrom_eq]
    exact Glyph.offsetsFrom_zero 0 (glyphs t) ps
  · have hlast := offsetsFrom_getLast? 0 t ps
    rwa [List.getLast?_eq_getElem?, offsetsFrom_length, Nat.add_sub_cancel, Nat.zero_add] at hlast
  · obtain ⟨l, r, rfl, hl⟩ : ∃ l r, t = l ++ r ∧ l.length = c :=
      ⟨t.take c, t.drop c, (List.take_append_drop c t).symm, List.length_take_of_le hc⟩
    subst hl
    have hseam : Seam l r := seam_iff.2 fun pos hpos => by
      have := hinside pos hpos
      omega
    refine ⟨_, hseam.offset ps, ?_⟩
    rw [hseam.tokens_before, List.take_left, List.drop_left, hseam.expand_eq ps]
    exact ⟨List.take_left, List.drop_left⟩

/-- Between two tokens, of which only the first has a piece, itself a token. -/
theorem expand_cut_orphan :
    let t := "a[*][*]b".toList
    let ps := ["[*]c".toList]
    offsets t ps = [0, 1, 1, 1, 5, 6, 7, 8, 9] ∧ expand t ps = "a[*]c[*]b".toList ∧
      (expand t ps).take 5 = expand "a[*]".toList ps ∧
      (expand t ps).drop 5 = expand "[*]b".toList [] := by
  intro t ps
  obtain ⟨-, -, -, -, hcut⟩ := expand_cut t ps
  obtain ⟨x, hx, htake, hdrop⟩ := hcut 4 (by decide) (by decide)
  have h5 : (offsets t ps)[4]? = some 5 := by decide
  obtain rfl : 5 = x := Option.some.inj (h5.symm.trans hx)
  exact ⟨by decide, by decide, htake, hdrop⟩

end CitationStudio.Fold
