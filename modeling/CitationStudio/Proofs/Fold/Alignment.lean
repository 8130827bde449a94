import CitationStudio.Fold.Alignment
import CitationStudio.Proofs.Fold.Stretch

/-! # Smallest edits

An edit that turns one text into another keeps what is before its stretch and what is after it, so
both are common to the two texts. Conversely, any number of characters that the texts have in common
at their starts and any number at their ends can be kept, as long as the two do not overlap in
either text. An edit costs the less the more it keeps. So the smallest edits keep the greatest
number of characters that these bounds allow, and differ in how many of them are at the start. -/

namespace CitationStudio.Edit

variable {old new : Text}

/-- An edit of a stretch of one text that makes another text of it. -/
structure Turns (e : Edit) (old new : Text) : Prop where
  start_le : e.start ≤ e.stop
  stop_le : e.stop ≤ old.length
  apply_eq : e.apply old = new

/-- So many characters at the start and so many at the end can be kept. -/
structure Keeps (old new : Text) (head tail : Nat) : Prop where
  head_le : head ≤ commonStart old new
  tail_le : tail ≤ commonEnd old new
  le_old : head + tail ≤ old.length
  le_new : head + tail ≤ new.length

def mostKept (old new : Text) : Nat :=
  min (min old.length new.length) (commonStart old new + commonEnd old new)

/-! ## What two texts have in common -/

theorem commonStart_le_right (s t : Text) : commonStart s t ≤ t.length := by
  fun_induction commonStart s t with
  | case1 _ _ _ ih => simpa using ih
  | case2 => simp
  | case3 => simp

theorem take_of_le_commonStart {n : Nat} (h : n ≤ commonStart old new) :
    old.take n = new.take n := by
  have := congrArg (List.take n) (take_commonStart old new)
  rwa [List.take_take, List.take_take, Nat.min_eq_left h] at this

theorem drop_of_le_commonEnd {n : Nat} (h : n ≤ commonEnd old new) :
    old.drop (old.length - n) = new.drop (new.length - n) := by
  have := take_of_le_commonStart h
  rwa [List.take_reverse, List.take_reverse, List.reverse_inj] at this

/-- What two texts both start with is counted. -/
theorem length_le_commonStart (u s t : Text) : u.length ≤ commonStart (u ++ s) (u ++ t) := by
  induction u with
  | nil => exact Nat.zero_le _
  | cons c u ih => simpa [commonStart] using ih

theorem length_le_commonEnd (u s t : Text) : u.length ≤ commonEnd (s ++ u) (t ++ u) := by
  simpa [commonEnd] using length_le_commonStart u.reverse s.reverse t.reverse

/-! ## What an edit keeps -/

theorem Keeps.turns {head tail : Nat} (h : Keeps old new head tail) :
    (keeping old new head tail).Turns old new where
  start_le := by
    have := h.le_old
    simp only [keeping]
    omega
  stop_le := Nat.sub_le ..
  apply_eq := by
    have := h.le_new
    rw [apply, keeping, Fold.splice, take_of_le_commonStart h.head_le,
      drop_of_le_commonEnd h.tail_le]
    exact new.three_pieces (by omega)

/-- Whatever an edit keeps can be kept, and the edit is known by how much that is. -/
theorem Turns.keeps {e : Edit} (h : e.Turns old new) :
    Keeps old new e.start (old.length - e.stop) ∧
      e = keeping old new e.start (old.length - e.stop) := by
  obtain ⟨start, stop, inserted⟩ := e
  obtain ⟨hstart, hstop, hnew⟩ := h
  obtain ⟨l, m, r, rfl, rfl, rfl⟩ := Fold.exists_stretch old hstart hstop
  rw [apply, Fold.splice_append] at hnew
  subst hnew
  have hold : (l ++ m ++ r).length - (l ++ m).length = r.length := by
    rw [List.length_append, Nat.add_sub_cancel_left]
  have hold' : (l ++ m ++ r).length - r.length = (l ++ m).length := by
    rw [List.length_append, Nat.add_sub_cancel]
  have hnew : (l ++ inserted ++ r).length - r.length = (l ++ inserted).length := by
    rw [List.length_append, Nat.add_sub_cancel]
  simp only [hold]
  constructor
  · refine ⟨?_, length_le_commonEnd r (l ++ m) (l ++ inserted), ?_, ?_⟩
    · rw [List.append_assoc, List.append_assoc]
      exact length_le_commonStart l (m ++ r) (inserted ++ r)
    · simp only [List.length_append]
      omega
    · simp only [List.length_append]
      omega
  · rw [keeping, hnew, Fold.slice_append, hold']

theorem Turns.length_eq {e : Edit} (h : e.Turns old new) :
    new.length + (e.stop - e.start) = old.length + e.inserted.length := by
  have hstart := h.start_le
  have hstop := h.stop_le
  rw [← h.apply_eq, apply, Fold.splice]
  simp only [List.length_append, List.length_take, List.length_drop]
  omega

theorem turns_iff {e : Edit} : e.Turns old new ↔
    ∃ head tail, Keeps old new head tail ∧ e = keeping old new head tail := by
  constructor
  · intro h
    exact ⟨_, _, h.keeps⟩
  · intro h
    obtain ⟨head, tail, hkeeps, rfl⟩ := h
    exact hkeeps.turns

theorem Keeps.cost {head tail : Nat} (h : Keeps old new head tail) :
    (keeping old new head tail).cost + 2 * (head + tail) = old.length + new.length := by
  have hold := h.le_old
  have hnew := h.le_new
  simp only [Edit.cost, keeping, Fold.slice, List.length_drop, List.length_take]
  omega

theorem Keeps.le_mostKept {head tail : Nat} (h : Keeps old new head tail) :
    head + tail ≤ mostKept old new := by
  obtain ⟨hhead, htail, hold, hnew⟩ := h
  rw [mostKept]
  omega

/-- As many as can be kept overlap in neither text. -/
theorem keeps_of_eq_mostKept {head tail : Nat} (hhead : head ≤ commonStart old new)
    (htail : tail ≤ commonEnd old new) (h : head + tail = mostKept old new) :
    Keeps old new head tail := by
  rw [mostKept] at h
  exact ⟨hhead, htail, by omega, by omega⟩

theorem commonStart_le_mostKept (old new : Text) : commonStart old new ≤ mostKept old new := by
  have hold := commonStart_le_left old new
  have hnew := commonStart_le_right old new
  rw [mostKept]
  omega

/-! ## Alignments -/

theorem mem_alignments_iff {e : Edit} : e ∈ alignments old new ↔
    ∃ head tail, Keeps old new head tail ∧ head + tail = mostKept old new ∧
      e = keeping old new head tail := by
  simp only [alignments, List.mem_map, List.mem_filter, List.mem_reverse, List.mem_range,
    decide_eq_true_iff]
  constructor
  · intro h
    obtain ⟨head, ⟨hhead, htail⟩, rfl⟩ := h
    rw [← mostKept] at htail ⊢
    have hmost := commonStart_le_mostKept old new
    have hsum : head + (mostKept old new - head) = mostKept old new := by omega
    exact ⟨head, _, keeps_of_eq_mostKept (by omega) htail hsum, hsum, rfl⟩
  · intro h
    obtain ⟨head, tail, hkeeps, hsum, rfl⟩ := h
    have hhead := hkeeps.head_le
    have htail := hkeeps.tail_le
    obtain rfl : tail = mostKept old new - head := by omega
    exact ⟨head, ⟨by omega, htail⟩, rfl⟩

theorem turns_of_mem_alignments {e : Edit} (h : e ∈ alignments old new) : e.Turns old new := by
  obtain ⟨head, tail, hkeeps, -, rfl⟩ := mem_alignments_iff.1 h
  exact hkeeps.turns

/-- The alignments have different starts, the rightmost first. -/
theorem alignments_pairwise (old new : Text) :
    (alignments old new).Pairwise fun e e' => e'.start < e.start := by
  rw [alignments, List.pairwise_map]
  refine List.Pairwise.filter _ ?_
  rw [List.pairwise_reverse]
  exact List.pairwise_lt_range

/-- All that the texts have in common at their starts can be kept. -/
theorem alignments_ne_nil (old new : Text) : alignments old new ≠ [] := by
  have hmost := commonStart_le_mostKept old new
  have hsum : commonStart old new + (mostKept old new - commonStart old new) =
      mostKept old new := by omega
  have htail : mostKept old new - commonStart old new ≤ commonEnd old new := by
    rw [mostKept]
    omega
  have hkeeps := keeps_of_eq_mostKept (Nat.le_refl _) htail hsum
  exact List.ne_nil_of_mem (mem_alignments_iff.2 ⟨_, _, hkeeps, hsum, rfl⟩)

/-- Alignments take out equally many characters, and put in equally many. -/
theorem alignments_sizes {e e' : Edit} (h : e ∈ alignments old new) (h' : e' ∈ alignments old new) :
    e.stop - e.start = e'.stop - e'.start ∧ e.inserted.length = e'.inserted.length := by
  obtain ⟨head, tail, hkeeps, hmost, rfl⟩ := mem_alignments_iff.1 h
  obtain ⟨head', tail', hkeeps', hmost', rfl⟩ := mem_alignments_iff.1 h'
  have hold := hkeeps.le_old
  have hold' := hkeeps'.le_old
  simp only [keeping, Fold.slice, List.length_drop, List.length_take]
  omega

/-- An edit that puts nothing in keeps all of the new text, and one that takes nothing out all of
the old one. No edit can keep more. -/
theorem Turns.mem_alignments {e : Edit} (h : e.Turns old new)
    (hone : e.start = e.stop ∨ e.inserted = []) : e ∈ alignments old new := by
  obtain ⟨hkeeps, he⟩ := h.keeps
  have hle := hkeeps.le_mostKept
  have hcost := hkeeps.cost
  rw [← he, Edit.cost] at hcost
  have hmost : mostKept old new ≤ e.start + (old.length - e.stop) := by
    have hstart := h.start_le
    have hstop := h.stop_le
    rw [mostKept]
    rcases hone with hnone | hnone
    · omega
    · rw [hnone, List.length_nil] at hcost
      omega
  exact mem_alignments_iff.2 ⟨_, _, hkeeps, Nat.le_antisymm hle hmost, he⟩

/-- **The alignments are the smallest edits**, all of them and no others: those that turn the old
text into the new one, and than which none that does so takes out and puts in fewer characters. Each
is listed once, from the rightmost to the leftmost, and there is at least one. -/
theorem alignments_smallest (old new : Text) :
    (∀ e, e ∈ alignments old new ↔
      e.Turns old new ∧ ∀ e' : Edit, e'.Turns old new → e.cost ≤ e'.cost) ∧
    (alignments old new).Pairwise (fun e e' => e'.start < e.start) ∧ alignments old new ≠ [] := by
  refine ⟨fun e => ?_, alignments_pairwise old new, alignments_ne_nil old new⟩
  constructor
  · intro he
    refine ⟨turns_of_mem_alignments he, fun e' h' => ?_⟩
    obtain ⟨head, tail, hkeeps, hmost, rfl⟩ := mem_alignments_iff.1 he
    obtain ⟨head', tail', hkeeps', rfl⟩ := turns_iff.1 h'
    have hcost := hkeeps.cost
    have hcost' := hkeeps'.cost
    have hle := hkeeps'.le_mostKept
    omega
  · intro h
    obtain ⟨hturns, hleast⟩ := h
    obtain ⟨head, tail, hkeeps, rfl⟩ := turns_iff.1 hturns
    -- an alignment there is, and the edit keeps as much as that
    obtain ⟨e, he⟩ := List.exists_mem_of_ne_nil _ (alignments_ne_nil old new)
    obtain ⟨head', tail', hkeeps', hmost, rfl⟩ := mem_alignments_iff.1 he
    have hle := hleast _ hkeeps'.turns
    have hcost := hkeeps.cost
    have hcost' := hkeeps'.cost
    have hmost' := hkeeps.le_mostKept
    exact mem_alignments_iff.2 ⟨head, tail, hkeeps, by omega, rfl⟩

/-- A bracket that is typed before a token may as well be the second of the two. -/
example : alignments "[*]".toList "[[*]".toList = [⟨1, 1, "[".toList⟩, ⟨0, 0, "[".toList⟩] := by
  decide +kernel

end CitationStudio.Edit
