import CitationStudio.Lab.Draw
import CitationStudio.Proofs.Lab.Choices

/-! # The rows of a lab

A row shows the arguments that its number chooses, each at its place, and nothing elsewhere
(`Shows`). Below the cap the rows go through all numbers, so each choice of selected arguments that
is not empty is shown once (`Enumerates`); a sample goes through some of the numbers in ascending
order (`Samples`). Nothing is asked of the names, which may repeat: a choice is one of places. -/

namespace CitationStudio.Lab

/-! ## Selected places -/

/-- Every argument has its place in the mask. -/
def Masked (l : Lab) : Prop := l.mask.length = l.names.length

theorem selected_ascending (l : Lab) : l.selected.Pairwise (· < ·) :=
  List.pairwise_lt_range.filter _

theorem selected_nodup (l : Lab) : l.selected.Nodup :=
  l.selected_ascending.imp Nat.ne_of_lt

theorem mem_selected {l : Lab} (h : l.Masked) {i : Nat} :
    i ∈ l.selected ↔ l.mask[i]? = some true := by
  rw [selected, List.mem_filter, List.mem_range, ← h]
  constructor
  · rintro ⟨hi, hm⟩
    rw [List.getElem?_eq_getElem hi, Option.getD_some] at hm
    rw [List.getElem?_eq_getElem hi, hm]
  · intro hm
    exact ⟨(List.getElem?_eq_some_iff.1 hm).1, by rw [hm, Option.getD_some]⟩

theorem count_lt (l : Lab) : l.count < Nat.pow 2 l.selected.length :=
  Nat.sub_lt (Nat.pow_pos Nat.two_pos) Nat.one_pos

theorem lt_of_le_count {l : Lab} {m : Nat} (h : m ≤ l.count) : m < Nat.pow 2 l.selected.length :=
  Nat.lt_of_le_of_lt h l.count_lt

/-! ## One row -/

/-- The places at which a row has a value. -/
def Row.places (r : Row) : List Nat :=
  (List.range r.inputs.length).filter fun i => r.inputs[i]?.join.isSome

/-- The row of a number: each selected argument at whose rank the number has a bit, under its own
name, rendered, and nothing in place of the others. -/
structure Shows (l : Lab) (choice : Nat) (r : Row) : Prop where
  inputs : ∀ i, r.inputs[i]? = l.names[i]?.map fun name =>
    if l.mask[i]? = some true ∧ choice.testBit (l.selected.idxOf i) then some name else none
  output : r.output = l.render r.inputs
  advisory : r.advisory = false

theorem getElem?_inputs (l : Lab) (places : List Nat) (i : Nat) :
    (l.inputs places)[i]? = l.names[i]?.map fun name => if i ∈ places then some name else none := by
  rw [inputs, List.getElem?_map, List.getElem?_zipIdx, Option.map_map, Nat.zero_add]
  rfl

theorem row_shows {l : Lab} (h : l.Masked) (choice : Nat) : l.Shows choice (l.row choice) := by
  refine ⟨fun i => ?_, rfl, rfl⟩
  show (l.inputs (chosen l.selected choice))[i]? = _
  rw [getElem?_inputs]
  simp only [mem_chosen l.selected_nodup, mem_selected h]

/-- Lists in ascending order are the same if they have the same members. -/
theorem eq_of_ascending {ms ns : List Nat} (hm : ms.Pairwise (· < ·)) (hn : ns.Pairwise (· < ·))
    (h : ∀ i, i ∈ ms ↔ i ∈ ns) : ms = ns := by
  have hperm : ms.Perm ns :=
    (List.perm_ext_iff_of_nodup (hm.imp Nat.ne_of_lt) (hn.imp Nat.ne_of_lt)).2 h
  exact hperm.eq_of_pairwise (fun a b _ _ hab hba => absurd hab (Nat.lt_asymm hba)) hm hn

theorem places_row {l : Lab} (choice : Nat) :
    (l.row choice).places = chosen l.selected choice := by
  have hsub := chosen_sublist l.selected choice
  refine eq_of_ascending (List.pairwise_lt_range.filter _) (l.selected_ascending.sublist hsub) ?_
  intro i
  show i ∈ (List.range (l.inputs (chosen l.selected choice)).length).filter
    (fun i => (l.inputs (chosen l.selected choice))[i]?.join.isSome) ↔ _
  rw [List.mem_filter, List.mem_range, getElem?_inputs, inputs, List.length_map, List.length_zipIdx]
  constructor
  · rintro ⟨hi, hsome⟩
    rw [List.getElem?_eq_getElem hi] at hsome
    refine Decidable.byContradiction fun hmem => ?_
    simp [hmem] at hsome
  · intro hmem
    have hi : i < l.names.length := List.mem_range.1 (List.mem_filter.1 (hsub.subset hmem)).1
    refine ⟨hi, ?_⟩
    rw [List.getElem?_eq_getElem hi]
    simp [hmem]

theorem row_inj {l : Lab} {m n : Nat} (hm : m ≤ l.count) (hn : n ≤ l.count)
    (h : (l.row m).places = (l.row n).places) : m = n := by
  rw [places_row, places_row] at h
  exact chosen_inj l.selected_nodup (lt_of_le_count hm) (lt_of_le_count hn) h

/-! ## All rows, and a sample -/

/-- Rows that go through all choices. -/
structure Enumerates (l : Lab) (rows : List Row) : Prop where
  length : rows.length = l.count
  shows : ∀ m, 1 ≤ m → m ≤ l.count → ∃ r, rows[m - 1]? = some r ∧ l.Shows m r
  /-- Each choice of selected arguments that is not empty has one row. -/
  once : ∀ ps, ps.Sublist l.selected → ps ≠ [] →
    ∃ n : Nat, rows[n]?.map Row.places = some ps ∧
      ∀ k : Nat, rows[k]?.map Row.places = some ps → k = n
  /-- No row has an argument that is not selected. -/
  selected : ∀ r ∈ rows, r.places.Sublist l.selected

theorem enumerates_all {l : Lab} (h : l.Masked) :
    l.Enumerates ((List.range l.count).map fun m => l.row (m + 1)) := by
  have hget : ∀ n r, ((List.range l.count).map fun m => l.row (m + 1))[n]? = some r →
      n < l.count ∧ l.row (n + 1) = r := by
    intro n r hr
    obtain ⟨m, hm, rfl⟩ := Option.map_eq_some_iff.1 ((List.getElem?_map ..).symm.trans hr)
    obtain ⟨hlt, rfl⟩ := List.getElem?_eq_some_iff.1 hm
    rw [List.length_range] at hlt
    rw [List.getElem_range]
    exact ⟨hlt, rfl⟩
  have hrow : ∀ n, n < l.count →
      ((List.range l.count).map fun m => l.row (m + 1))[n]? = some (l.row (n + 1)) := by
    intro n hn
    rw [List.getElem?_map, List.getElem?_range hn]
    rfl
  constructor
  · rw [List.length_map, List.length_range]
  · intro m hpos hle
    refine ⟨l.row m, ?_, row_shows h m⟩
    rw [hrow (m - 1) (by omega), Nat.sub_add_cancel hpos]
  · intro ps hps hne
    obtain ⟨m, hm, rfl⟩ := exists_chosen hps
    -- the choice is not empty, so its number is not nought
    have hzero : m ≠ 0 := fun he => hne ((chosen_eq_nil_iff l.selected_nodup hm).2 he)
    have hle : m ≤ l.count := Nat.le_sub_one_of_lt hm
    refine ⟨m - 1, ?_, fun k hk => ?_⟩
    · rw [hrow (m - 1) (by omega), Nat.sub_add_cancel (Nat.pos_of_ne_zero hzero), Option.map_some,
        places_row]
    · obtain ⟨r, hr, hplaces⟩ := Option.map_eq_some_iff.1 hk
      obtain ⟨hlt, rfl⟩ := hget k r hr
      rw [← places_row] at hplaces
      have := row_inj (Nat.succ_le_of_lt hlt) hle hplaces
      omega
  · intro r hr
    obtain ⟨m, -, rfl⟩ := List.mem_map.1 hr
    rw [places_row]
    exact chosen_sublist ..

/-- Rows that show some choices, in ascending order. -/
structure Samples (l : Lab) (choices : List Nat) (rows : List Row) : Prop where
  ascending : choices.Pairwise (· < ·)
  within : ∀ m ∈ choices, 1 ≤ m ∧ m ≤ l.count
  length : rows.length = choices.length
  shows : ∀ (n : Nat) m, choices[n]? = some m → ∃ r, rows[n]? = some r ∧ l.Shows m r
  distinct : rows.Pairwise fun r r' => r.places ≠ r'.places

/-- A way to draw: as many numbers as are asked for, from one to the total, none of them twice. -/
structure Fair (draw : Nat → Nat → List Nat) : Prop where
  length : ∀ {total budget}, budget ≤ total → (draw total budget).length = budget
  nodup : ∀ {total budget}, budget ≤ total → (draw total budget).Nodup
  within : ∀ {total budget}, budget ≤ total → ∀ m ∈ draw total budget, 1 ≤ m ∧ m ≤ total

theorem fair_sample (seed : Nat) : Fair (sample seed) where
  length _ := sample_length ..
  nodup _ := sample_nodup ..
  within hb _ hm := mem_sample hb hm

theorem mergeSort_ascending {ms : List Nat} (h : ms.Nodup) :
    (ms.mergeSort (· ≤ ·)).Pairwise (· < ·) := by
  have hle : (ms.mergeSort (· ≤ ·)).Pairwise fun a b => (decide (a ≤ b)) = true :=
    List.pairwise_mergeSort (by simpa using fun _ _ _ => Nat.le_trans)
      (by simpa using fun a b => Nat.le_total a b) ms
  have hne : (ms.mergeSort (· ≤ ·)).Nodup := (List.mergeSort_perm ms _).nodup_iff.2 h
  refine (hle.and hne).imp fun h => ?_
  exact Nat.lt_of_le_of_ne (of_decide_eq_true h.1) h.2

theorem samples_drawn {l : Lab} (h : l.Masked) {choices : List Nat} (hd : choices.Nodup)
    (hw : ∀ m ∈ choices, 1 ≤ m ∧ m ≤ l.count) :
    l.Samples (choices.mergeSort (· ≤ ·)) ((choices.mergeSort (· ≤ ·)).map l.row) := by
  have hasc := mergeSort_ascending hd
  have hwithin : ∀ m ∈ choices.mergeSort (· ≤ ·), 1 ≤ m ∧ m ≤ l.count := fun m hm =>
    hw m ((List.mergeSort_perm choices _).mem_iff.1 hm)
  refine ⟨hasc, hwithin, List.length_map .., fun n m hm => ?_, ?_⟩
  · exact ⟨l.row m, by rw [List.getElem?_map, hm]; rfl, row_shows h m⟩
  · refine List.pairwise_map.2 (hasc.imp_of_mem fun {m n} hm hn hlt he => ?_)
    exact Nat.ne_of_lt hlt (row_inj (hwithin m hm).2 (hwithin n hn).2 he)

end CitationStudio.Lab
