import CitationStudio.Lab.Basic

/-! # Choices by number

The bits of a number choose among places: bit `b` stands for the place at rank `b`. Read place by
place, the lowest bit decides about the first one and half of the number about the rest. So the
numbers below `2 ^ k` stand for the sublists of `k` places, each for another one, and nought stands
for the empty one. -/

namespace CitationStudio.Lab

@[simp] theorem chosen_nil (choice : Nat) : chosen [] choice = [] := rfl

theorem chosen_cons (i : Nat) (places : List Nat) (choice : Nat) :
    chosen (i :: places) choice =
      (if choice.testBit 0 then [i] else []) ++ chosen places (choice / 2) := by
  have hrest : (places.zipIdx 1).filter (fun p => choice.testBit p.2) =
      (places.zipIdx.filter fun p => (choice / 2).testBit p.2).map fun p => (p.1, p.2 + 1) := by
    rw [List.zipIdx_succ, List.filter_map]
    refine congrArg _ (List.filter_congr fun p _ => ?_)
    exact Nat.testBit_succ ..
  have htail : ((places.zipIdx 1).filter fun p => choice.testBit p.2).map Prod.fst =
      chosen places (choice / 2) := by
    rw [hrest, List.map_map]
    rfl
  rw [← htail, chosen, List.zipIdx_cons, List.filter_cons]
  dsimp only
  split <;> rfl

theorem chosen_sublist (places : List Nat) (choice : Nat) :
    (chosen places choice).Sublist places := by
  have h : (chosen places choice).Sublist (places.zipIdx.map Prod.fst) :=
    List.filter_sublist.map Prod.fst
  rwa [List.zipIdx_map_fst] at h

/-- What a number chooses: the places at whose ranks it has a bit. -/
theorem mem_chosen {places : List Nat} (h : places.Nodup) {choice i : Nat} :
    i ∈ chosen places choice ↔ i ∈ places ∧ choice.testBit (places.idxOf i) := by
  induction places generalizing choice with
  | nil => simp
  | cons p places ih =>
    obtain ⟨hp, h⟩ := List.nodup_cons.1 h
    rw [chosen_cons, List.mem_append, ih h]
    by_cases hi : i = p
    · subst hi
      rw [List.idxOf_cons_self, and_iff_right (List.mem_cons_self ..),
        or_iff_left fun hm => hp hm.1]
      split <;> simp_all
    · have hhead : i ∉ if choice.testBit 0 then [p] else [] := by
        split <;> simp [hi]
      have hrank : (p :: places).idxOf i = places.idxOf i + 1 := by
        rw [List.idxOf_cons, beq_eq_false_iff_ne.2 fun he => hi he.symm, cond_false]
      rw [or_iff_right hhead, hrank, Nat.testBit_succ, List.mem_cons, or_iff_right hi]

/-- No two numbers below `2 ^ k` make the same choice among `k` places. -/
theorem chosen_inj {places : List Nat} (h : places.Nodup) {m n : Nat}
    (hm : m < Nat.pow 2 places.length) (hn : n < Nat.pow 2 places.length)
    (he : chosen places m = chosen places n) : m = n := by
  refine Nat.eq_of_testBit_eq fun b => ?_
  by_cases hb : b < places.length
  · have hmem : places[b] ∈ places := List.getElem_mem hb
    have hiff : m.testBit (places.idxOf places[b]) = true ↔
        n.testBit (places.idxOf places[b]) = true := by
      have hm' : places[b] ∈ chosen places m ↔ _ := mem_chosen h
      rw [he, mem_chosen h, and_iff_right hmem, and_iff_right hmem] at hm'
      exact hm'.symm
    rw [h.idxOf_getElem] at hiff
    exact Bool.eq_iff_iff.2 hiff
  · have hle : Nat.pow 2 places.length ≤ Nat.pow 2 b :=
      Nat.pow_le_pow_right Nat.two_pos (Nat.not_lt.1 hb)
    rw [Nat.testBit_lt_two_pow (Nat.lt_of_lt_of_le hm hle),
      Nat.testBit_lt_two_pow (Nat.lt_of_lt_of_le hn hle)]

theorem exists_chosen {places picks : List Nat} (h : picks.Sublist places) :
    ∃ m, m < Nat.pow 2 places.length ∧ chosen places m = picks := by
  induction h with
  | slnil => exact ⟨0, Nat.one_pos, rfl⟩
  | @cons ps places p _ ih =>
    obtain ⟨m, hm, hc⟩ := ih
    refine ⟨2 * m, ?_, ?_⟩
    · show 2 * m < Nat.pow 2 places.length * 2
      omega
    · have hbit : (2 * m).testBit 0 = false := by simp
      rw [chosen_cons, hbit, Nat.mul_div_cancel_left _ Nat.two_pos, hc]
      rfl
  | @cons_cons ps places p _ ih =>
    obtain ⟨m, hm, hc⟩ := ih
    refine ⟨2 * m + 1, ?_, ?_⟩
    · show 2 * m + 1 < Nat.pow 2 places.length * 2
      omega
    · have hbit : (2 * m + 1).testBit 0 = true := by simp
      have hhalf : (2 * m + 1) / 2 = m := by omega
      rw [chosen_cons, hbit, hhalf, hc]
      rfl

/-- Nought alone chooses nothing. -/
theorem chosen_eq_nil_iff {places : List Nat} (h : places.Nodup) {m : Nat}
    (hm : m < Nat.pow 2 places.length) : chosen places m = [] ↔ m = 0 := by
  have hzero : chosen places 0 = [] := by
    refine List.eq_nil_iff_forall_not_mem.2 fun i hi => ?_
    simpa using ((mem_chosen h).1 hi).2
  constructor
  · intro he
    exact chosen_inj h hm (Nat.pow_pos Nat.two_pos) (he.trans hzero.symm)
  · intro he
    rw [he, hzero]

end CitationStudio.Lab
