import CitationStudio.Text.Location
import Mathlib.Data.Set.Function

/-! # Offsets and places correspond

A text can be walked by its offsets or, line by line, by its places. A place lies at an offset if
the lines above it, each with its line feed, and the characters before it in its own line add up to
the offset. Of two places the one that is read first lies at the smaller offset. So there is one
place at each offset and one offset for each place, and whatever leads from the one to the other
and back again changes nothing but numbers that mean no place of the text. -/

namespace CitationStudio.Location

/-- The first lines of a text, each with its line feed. -/
def above (t : Text) (row : Nat) : Text :=
  ((Text.lines t).take row).flatMap fun line => line ++ ['\n']

def lineAt (t : Text) (row : Nat) : Text := ((Text.lines t)[row]?).getD []

/-- There is such a line, and it has so many characters. -/
def IsIn (t : Text) (l : Location) : Prop :=
  ∃ row column : Nat, l = ⟨row, column⟩ ∧ row < (Text.lines t).length ∧
    column ≤ (lineAt t row).length

/-- The place of a text that a pair of numbers stands for. -/
def nearest (t : Text) (l : Location) : Location :=
  let row := max 0 (min l.row ((Text.lines t).length - 1))
  ⟨row, max 0 (min l.column (lineAt t row.toNat).length)⟩

/-- One place is read before another. -/
def Before (l l' : Location) : Prop :=
  l.row < l'.row ∨ (l.row = l'.row ∧ l.column < l'.column)

/-- The place is in the text, and what is read before it has so many characters. -/
def LiesAt (t : Text) (l : Location) (n : Nat) : Prop :=
  ∃ row column : Nat, l = ⟨row, column⟩ ∧ row < (Text.lines t).length ∧
    column ≤ (lineAt t row).length ∧ (above t row).length + column = n

/-! ## Lines -/

theorem lines_plain {c : Char} (hc : c ≠ '\n') {t line : Text} {after : List Text}
    (h : Text.lines t = line :: after) : Text.lines (c :: t) = (c :: line) :: after := by
  rw [Text.lines, if_neg hc, h]

theorem lines_feed (t : Text) : Text.lines ('\n' :: t) = [] :: Text.lines t := by
  rw [Text.lines, if_pos rfl]

theorem not_mem_of_mem_lines {t line : Text} (h : line ∈ Text.lines t) : '\n' ∉ line := by
  induction t generalizing line with
  | nil =>
    rw [Text.lines, List.mem_singleton] at h
    simp [h]
  | cons c t ih =>
    by_cases hc : c = '\n'
    · rw [hc, lines_feed, List.mem_cons] at h
      rcases h with h | h
      · simp [h]
      · exact ih h
    · obtain ⟨first, after, hlines⟩ := List.exists_cons_of_ne_nil (Text.lines_ne_nil t)
      rw [hlines] at ih
      rw [lines_plain hc hlines, List.mem_cons] at h
      rcases h with h | h
      · simp [h, Ne.symm hc, ih List.mem_cons_self]
      · exact ih (List.mem_cons_of_mem _ h)

/-- A cut in a text cuts one of its lines. -/
theorem exists_lines (u v : Text) : ∃ before line rest after,
    Text.lines (u ++ v) = before ++ (line ++ rest) :: after ∧
      u = before.flatMap (fun l => l ++ ['\n']) ++ line := by
  induction u with
  | nil =>
    obtain ⟨rest, after, hlines⟩ := List.exists_cons_of_ne_nil (Text.lines_ne_nil v)
    exact ⟨[], [], rest, after, hlines, rfl⟩
  | cons c u ih =>
    obtain ⟨before, line, rest, after, hlines, hu⟩ := ih
    by_cases hc : c = '\n'
    · refine ⟨[] :: before, line, rest, after, ?_, ?_⟩
      · rw [hc, List.cons_append, lines_feed, hlines, List.cons_append]
      · rw [hc, hu]
        rfl
    · cases before with
      | nil =>
        refine ⟨[], c :: line, rest, after, lines_plain hc hlines, ?_⟩
        rw [hu]
        rfl
      | cons first before =>
        refine ⟨(c :: first) :: before, line, rest, after, lines_plain hc hlines, ?_⟩
        rw [hu]
        rfl

/-- The lines are the text, if the last one gets a line feed as well. -/
theorem flatMap_lines (t : Text) :
    ((Text.lines t).flatMap fun line => line ++ ['\n']) = t ++ ['\n'] := by
  induction t with
  | nil => rfl
  | cons c t ih =>
    by_cases hc : c = '\n'
    · rw [hc, lines_feed, List.flatMap_cons, ih]
      rfl
    · obtain ⟨first, after, hlines⟩ := List.exists_cons_of_ne_nil (Text.lines_ne_nil t)
      rw [hlines, List.flatMap_cons] at ih
      rw [lines_plain hc hlines, List.flatMap_cons, List.cons_append, List.cons_append, ih]
      rfl

theorem above_succ {t : Text} {row : Nat} (h : row < (Text.lines t).length) :
    (above t (row + 1)).length = (above t row).length + (lineAt t row).length + 1 := by
  rw [above, above, lineAt, List.take_add_one, List.getElem?_eq_getElem h, Option.toList_some,
    List.flatMap_append, List.length_append, List.flatMap_singleton, List.length_append]
  rfl

theorem length_above_mono (t : Text) {row row' : Nat} (h : row ≤ row') :
    (above t row).length ≤ (above t row').length := by
  obtain ⟨k, rfl⟩ := Nat.exists_eq_add_of_le h
  rw [above, above, List.take_add, List.flatMap_append, List.length_append]
  exact Nat.le_add_right _ _

theorem length_above_all (t : Text) : (above t (Text.lines t).length).length = t.length + 1 := by
  rw [above, List.take_length, flatMap_lines, List.length_append]
  rfl

/-! ## The offset of a place -/

/-- Two places are the same, or one is read first. -/
theorem before_or_eq_or_before (l l' : Location) : l.Before l' ∨ l = l' ∨ l'.Before l := by
  obtain ⟨row, column⟩ := l
  obtain ⟨row', column'⟩ := l'
  simp only [Before, Location.mk.injEq]
  omega

theorem offset_eq_above (t : Text) (l : Location) :
    let row := clamp l.row ((Text.lines t).length - 1)
    offset t l = (above t row).length + clamp l.column (lineAt t row).length := rfl

namespace LiesAt

variable {t : Text} {l l' : Location} {n n' : Nat}

theorem isIn (h : LiesAt t l n) : l.IsIn t := by
  obtain ⟨row, column, hl, hrow, hcolumn, -⟩ := h
  exact ⟨row, column, hl, hrow, hcolumn⟩

theorem le_length (h : LiesAt t l n) : n ≤ t.length := by
  obtain ⟨row, column, -, hrow, hcolumn, hn⟩ := h
  have hrows : (above t (row + 1)).length ≤ (above t (Text.lines t).length).length :=
    length_above_mono t hrow
  rw [above_succ hrow, length_above_all] at hrows
  omega

theorem offset_eq (h : LiesAt t l n) : offset t l = n := by
  obtain ⟨row, column, rfl, hrow, hcolumn, rfl⟩ := h
  have hline : clamp row ((Text.lines t).length - 1) = row := by
    rw [clamp]
    omega
  have hplace : clamp column (lineAt t row).length = column := by
    rw [clamp]
    omega
  simp only [offset_eq_above, hline, hplace]

theorem nearest_eq (h : LiesAt t l n) : l.nearest t = l := by
  obtain ⟨row, column, rfl, hrow, hcolumn, -⟩ := h
  have hnearest : max 0 (min (row : Int) ((Text.lines t).length - 1)) = row := by omega
  simp only [nearest, hnearest, Int.toNat_natCast, Location.mk.injEq, true_and]
  omega

/-- What is read first lies at the smaller offset: a later line comes behind all of an earlier one,
and behind its line feed. -/
theorem lt_of_before (h : LiesAt t l n) (h' : LiesAt t l' n') (hb : l.Before l') : n < n' := by
  obtain ⟨row, column, rfl, hrow, hcolumn, rfl⟩ := h
  obtain ⟨row', column', rfl, -, -, rfl⟩ := h'
  rcases hb with hb | ⟨hb, hc⟩
  · have hrows := length_above_mono t (show row + 1 ≤ row' by simp only at hb; omega)
    rw [above_succ hrow] at hrows
    omega
  · simp only [Int.ofNat_inj] at hb
    simp only at hc
    subst hb
    omega

theorem unique (h : LiesAt t l n) (h' : LiesAt t l' n) : l = l' := by
  rcases before_or_eq_or_before l l' with hb | heq | hb
  · exact absurd (h.lt_of_before h' hb) (Nat.lt_irrefl _)
  · exact heq
  · exact absurd (h'.lt_of_before h hb) (Nat.lt_irrefl _)

theorem before_iff (h : LiesAt t l n) (h' : LiesAt t l' n') : l.Before l' ↔ n < n' := by
  constructor
  · exact h.lt_of_before h'
  · intro hn
    rcases before_or_eq_or_before l l' with hb | heq | hb
    · exact hb
    · subst heq
      rw [← h.offset_eq, ← h'.offset_eq] at hn
      exact absurd hn (Nat.lt_irrefl _)
    · exact absurd (h'.lt_of_before h hb) (Nat.lt_asymm hn)

end LiesAt

theorem exists_liesAt {t : Text} {l : Location} (h : l.IsIn t) : ∃ n, LiesAt t l n := by
  obtain ⟨row, column, hl, hrow, hcolumn⟩ := h
  exact ⟨_, row, column, hl, hrow, hcolumn, rfl⟩

theorem liesAt_offset (t : Text) (l : Location) : LiesAt t (l.nearest t) (offset t l) := by
  have hlines := List.length_pos_iff.2 (Text.lines_ne_nil t)
  have hrow : (max 0 (min l.row ((Text.lines t).length - 1))).toNat =
      clamp l.row ((Text.lines t).length - 1) := by
    rw [clamp]
    omega
  refine ⟨clamp l.row ((Text.lines t).length - 1), clamp l.column
    (lineAt t (clamp l.row ((Text.lines t).length - 1))).length, ?_, ?_, ?_, rfl⟩
  · simp only [nearest, hrow, Location.mk.injEq, clamp]
    omega
  · rw [clamp]
    omega
  · rw [clamp]
    omega

/-! ## The place of an offset -/

theorem count_feeds {ls : List Text} (h : ∀ line ∈ ls, '\n' ∉ line) :
    (ls.flatMap fun line => line ++ ['\n']).count '\n' = ls.length := by
  induction ls with
  | nil => rfl
  | cons line ls ih =>
    obtain ⟨hline, hls⟩ := List.forall_mem_cons.1 h
    simp only [List.flatMap_cons, List.count_append, List.count_eq_zero_of_not_mem hline, ih hls]
    simp [Nat.add_comm]

/-- Behind full lines there is nothing of another one. -/
theorem takeWhile_feeds (ls : List Text) :
    (ls.flatMap fun line => line ++ ['\n']).reverse.takeWhile (· ≠ '\n') = [] := by
  rcases List.eq_nil_or_concat ls with h | ⟨before, line, h⟩
  · rw [h]
    rfl
  · rw [h, List.concat_eq_append, List.flatMap_append]
    simp

theorem liesAt_ofOffset (t : Text) (n : Int) :
    LiesAt t (ofOffset t n) (clamp n t.length) := by
  obtain ⟨before, line, rest, after, hlines, hu⟩ :=
    exists_lines (t.take (clamp n t.length)) (t.drop (clamp n t.length))
  rw [List.take_append_drop] at hlines
  have hfree : ∀ l ∈ before, '\n' ∉ l := fun l hl =>
    not_mem_of_mem_lines (by rw [hlines]; exact List.mem_append_left _ hl)
  have hline : '\n' ∉ line := fun hn =>
    not_mem_of_mem_lines (t := t) (by rw [hlines]; exact List.mem_append_right _ List.mem_cons_self)
      (List.mem_append_left rest hn)
  have hcount : (t.take (clamp n t.length)).count '\n' = before.length := by
    rw [hu, List.count_append, count_feeds hfree, List.count_eq_zero_of_not_mem hline, Nat.add_zero]
  have htail : ((t.take (clamp n t.length)).reverse.takeWhile (· ≠ '\n')).length = line.length := by
    rw [hu, List.reverse_append, List.takeWhile_append_of_pos, takeWhile_feeds, List.append_nil,
      List.length_reverse]
    intro c hc
    simp only [ne_eq, decide_eq_true_eq]
    intro hcn
    exact hline (hcn ▸ List.mem_reverse.1 hc)
  refine ⟨before.length, line.length, ?_, ?_, ?_, ?_⟩
  · simp only [ofOffset, hcount, htail]
  · rw [hlines]
    simp
  · simp [lineAt, hlines]
  · have hlength := congrArg List.length hu
    rw [List.length_append, List.length_take_of_le (by rw [clamp]; omega)] at hlength
    rw [above, hlines, List.take_left, ← hlength]

/-- **Offsets and places correspond.** The place of an offset lies at that offset, and at the
nearest end of the text if the offset is outside it. The place of the offset of a pair of numbers is
the nearest place that there is: the nearest line, and in this line the nearest column. So the
offsets of the text and its places correspond one to one, and in the order in which the places are
read. -/
theorem places_correspond (t : Text) :
    (∀ n : Int, (offset t (ofOffset t n) : Int) = max 0 (min n t.length)) ∧
      (∀ l : Location, ofOffset t (offset t l) = l.nearest t) ∧
      Set.BijOn (ofOffset t) {n | 0 ≤ n ∧ n ≤ t.length} {l | l.IsIn t} ∧
      ∀ m n : Int, 0 ≤ m ∧ m ≤ t.length → 0 ≤ n ∧ n ≤ t.length →
        ((ofOffset t m).Before (ofOffset t n) ↔ m < n) := by
  have hoffset (n : Int) : (offset t (ofOffset t n) : Int) = max 0 (min n t.length) := by
    rw [(liesAt_ofOffset t n).offset_eq, clamp]
    omega
  have hplace (l : Location) : ofOffset t (offset t l) = l.nearest t := by
    have hl := liesAt_offset t l
    have hback := liesAt_ofOffset t (offset t l)
    have hclamp : clamp (offset t l) t.length = offset t l := by
      have hle := hl.le_length
      rw [clamp]
      omega
    rw [hclamp] at hback
    exact hback.unique hl
  have hinverse : Set.InvOn (fun l => (offset t l : Int)) (ofOffset t)
      {n | 0 ≤ n ∧ n ≤ t.length} {l | l.IsIn t} := by
    constructor
    · intro n hn
      obtain ⟨h0, hle⟩ := hn
      exact (hoffset n).trans (by omega)
    · intro l hl
      obtain ⟨n, hn⟩ := exists_liesAt hl
      exact (hplace l).trans hn.nearest_eq
  refine ⟨hoffset, hplace, hinverse.bijOn ?_ ?_, ?_⟩
  · intro n _
    exact (liesAt_ofOffset t n).isIn
  · intro l _
    have hle := (liesAt_offset t l).le_length
    exact ⟨Int.natCast_nonneg _, Int.ofNat_le.2 hle⟩
  · intro m n hm hn
    rw [(liesAt_ofOffset t m).before_iff (liesAt_ofOffset t n), clamp, clamp]
    omega

/-- The last place of an empty line, and a column that it does not have. -/
example : ofOffset "a\n\nb".toList 2 = ⟨1, 0⟩ ∧ offset "a\n\nb".toList ⟨1, 4⟩ = 2 := by
  decide +kernel

end CitationStudio.Location
