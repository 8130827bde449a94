import CitationStudio.Proofs.Lab.Run

/-! # Sampling a great many choices

There are `2 ^ k - 1` choices of `k` selected arguments, and beyond its cap a lab that samples draws
from the numbers of all of them. What is drawn from must have a length that fits a machine word. So
the way out for too many choices is open for up to 63 arguments, and closed from then on. -/

namespace CitationStudio.Lab

/-- **A lab samples the choices of up to 63 arguments.** Beyond the cap, with a budget that is not
negative and a draw that gives so many different numbers, a lab that samples has as many rows as the
budget says, or as there are choices if these are fewer, if and only if at most 63 arguments are
selected. With 64 or more it has none, because there are too many choices to draw from. -/
theorem sampled_rows_iff {l : Lab} (h : l.Busy) (ho : l.overflow = .sample) (hb : 0 ≤ l.budget)
    (hlt : l.cap < l.count) {draw : Nat → Nat → List Nat} (hdraw : Fair draw) :
    l.count = Nat.pow 2 l.selected.length - 1 ∧
      ((∃ rs, l.rows draw = .ok rs ∧ (rs.length : Int) = min l.budget l.count) ↔
        l.selected.length ≤ 63) ∧
      (l.rows draw = .error .populationTooLarge ↔ 64 ≤ l.selected.length) := by
  have hlimit : populationLimit < l.count ↔ 64 ≤ l.selected.length := populationLimit_lt_iff
  have hbudget : 0 ≤ min l.budget l.count := by omega
  refine ⟨rfl, ⟨fun ⟨rs, hrs, _⟩ => ?_, fun hfew => ?_⟩, ?_⟩
  · refine Nat.le_of_not_lt fun hmany => ?_
    rw [(rows_population_iff draw).2 ⟨h, ho, hmany, hlt⟩] at hrs
    cases hrs
  · rw [h.rows_sampling hlt ho, if_neg fun hmany => by omega, if_neg (Int.not_lt.2 hbudget)]
    refine ⟨_, rfl, ?_⟩
    rw [List.length_map, List.length_mergeSort, hdraw.length (by omega)]
    omega
  · rw [rows_population_iff]
    exact ⟨fun hrows => hrows.2.2.1, fun hmany => ⟨h, ho, hmany, hlt⟩⟩

/-- A new lab that samples, with so many arguments, which are all alike. -/
def crowd (n : Nat) : Lab := Follower.supplied .sample (List.replicate n ['a'])

section Crowd

variable (n : Nat)

theorem visible_crowd : ∀ name ∈ List.replicate n ['a'], Text.isBlank name = false := by
  intro name hname
  rw [List.eq_of_mem_replicate hname]
  rfl

theorem length_selected_crowd : (crowd n).selected.length = n := by
  rw [crowd, Follower.length_selected_supplied .sample (visible_crowd n), List.length_replicate]

theorem busy_crowd (hmany : 13 ≤ n) : (crowd n).Busy ∧ (crowd n).cap < (crowd n).count :=
  Follower.busy_supplied .sample (visible_crowd n) (by rwa [List.length_replicate])

end Crowd

/-- With 63 arguments there is a full sample, with 64 there is none. -/
theorem sampled_rows_iff_63 :
    (crowd 63).Busy ∧ (crowd 63).cap < (crowd 63).count ∧
      (∃ rs, (crowd 63).rows (sample 7) = .ok rs ∧
        (rs.length : Int) = min 256 (Nat.pow 2 63 - 1 : Nat)) ∧
      (crowd 64).Busy ∧ (crowd 64).cap < (crowd 64).count ∧
      (crowd 64).rows (sample 7) = .error .populationTooLarge := by
  obtain ⟨hfew, hfewlt⟩ := busy_crowd 63 (by decide)
  obtain ⟨hmany, hmanylt⟩ := busy_crowd 64 (by decide)
  obtain ⟨hcount, hsampled, -⟩ := sampled_rows_iff hfew rfl (by decide) hfewlt (fair_sample 7)
  obtain ⟨-, -, hfails⟩ := sampled_rows_iff hmany rfl (by decide) hmanylt (fair_sample 7)
  rw [length_selected_crowd] at hcount hsampled hfails
  obtain ⟨rs, hrs, hlength⟩ := hsampled.2 (Nat.le_refl _)
  rw [hcount] at hlength
  exact ⟨hfew, hfewlt, ⟨rs, hrs, hlength⟩, hmany, hmanylt, hfails.2 (Nat.le_refl _)⟩

/-- A lab that samples has no rows for 64 arguments. -/
theorem not_sampled_rows :
    ¬ ∀ (l : Lab) (draw : Nat → Nat → List Nat), l.Busy → l.overflow = .sample → 0 ≤ l.budget →
      l.cap < l.count → Fair draw →
      ∃ rs, l.rows draw = .ok rs ∧ (rs.length : Int) = min l.budget l.count := by
  intro h
  obtain ⟨hbusy, hlt⟩ := busy_crowd 64 (by decide)
  have hmany : 64 ≤ (crowd 64).selected.length := Nat.le_of_eq (length_selected_crowd 64).symm
  obtain ⟨rs, hrs, -⟩ := h (crowd 64) (sample 7) hbusy rfl (by decide) hlt (fair_sample 7)
  rw [(rows_population_iff _).2 ⟨hbusy, rfl, hmany, hlt⟩] at hrs
  cases hrs

end CitationStudio.Lab
