import CitationStudio.Lab.Basic

/-! Drawing a sample of choices. The numbers are drawn one by one, the `k`-th of `n` from those up
to `total - n + k`; a number that was drawn before is replaced by the largest one of its turn, which
cannot have been drawn. So no number comes twice, and every set of numbers has the same chance. -/

namespace CitationStudio.Lab

/-- A number from 1 to the bound, whatever the source gives. -/
def drawOne (g : StdGen) (bound : Nat) : Nat × StdGen :=
  let (n, g) := randNat g 1 bound
  (1 + (n - 1) % bound, g)

/-- The first `n` draws, the first of which is up to `low + 1`; the last draw stands in front. -/
def draws (low : Nat) (g : StdGen) : Nat → List Nat × StdGen
  | 0 => ([], g)
  | n + 1 =>
    let (past, g) := draws low g n
    let (c, g) := drawOne g (low + n + 1)
    ((if c ∈ past then low + n + 1 else c) :: past, g)

/-- So many different numbers from one to the total, as the seed has it. -/
def sample (seed total budget : Nat) : List Nat :=
  (draws (total - budget) (mkStdGen seed) budget).1

theorem drawOne_pos (g : StdGen) (bound : Nat) : 1 ≤ (drawOne g bound).1 := by
  simp [drawOne]

theorem drawOne_le (g : StdGen) (bound : Nat) : (drawOne g (bound + 1)).1 ≤ bound + 1 := by
  have : ((randNat g 1 (bound + 1)).1 - 1) % (bound + 1) < bound + 1 :=
    Nat.mod_lt _ (Nat.succ_pos bound)
  simp only [drawOne]
  omega

theorem draws_length (low : Nat) (g : StdGen) (n : Nat) : (draws low g n).1.length = n := by
  induction n with
  | zero => rfl
  | succ n ih => simp [draws, ih]

theorem mem_draws {low n c : Nat} {g : StdGen} (h : c ∈ (draws low g n).1) :
    1 ≤ c ∧ c ≤ low + n := by
  induction n with
  | zero => simp [draws] at h
  | succ n ih =>
    simp only [draws, List.mem_cons] at h
    rcases h with h | h
    · have hpos := drawOne_pos (draws low g n).2 (low + n + 1)
      have hle := drawOne_le (draws low g n).2 (low + n)
      split at h <;> omega
    · have := ih h
      omega

theorem draws_nodup (low : Nat) (g : StdGen) (n : Nat) : (draws low g n).1.Nodup := by
  induction n with
  | zero => simp [draws]
  | succ n ih =>
    simp only [draws, List.nodup_cons]
    refine ⟨?_, ih⟩
    split
    · intro h
      have := mem_draws h
      omega
    · assumption

theorem sample_length (seed total budget : Nat) :
    (sample seed total budget).length = budget :=
  draws_length ..

theorem sample_nodup (seed total budget : Nat) : (sample seed total budget).Nodup :=
  draws_nodup ..

theorem mem_sample {seed total budget c : Nat} (hb : budget ≤ total)
    (h : c ∈ sample seed total budget) : 1 ≤ c ∧ c ≤ total := by
  have := mem_draws h
  omega

end CitationStudio.Lab
