import CitationStudio.Text.Basic

/-! Literal text of a citation is kept in runs: each punctuation character is a run of its own,
and what stands between two of them is one run. Line breaks become spaces first; spaces and
periods stay with the run they are in. -/

namespace CitationStudio.Citation

def isPunctuation (c : Char) : Bool :=
  c = ',' || c = ':' || c = ';' || c = '#' || c = '(' || c = ')' || c = '"'

/-- Puts a character before runs: into the first one if neither is punctuation. -/
def consRun (c : Char) : List Text → List Text
  | (d :: r) :: rs =>
    if isPunctuation c || isPunctuation d then [c] :: (d :: r) :: rs else (c :: d :: r) :: rs
  | rs => [c] :: rs

def runs : Text → List Text
  | [] => []
  | c :: t => consRun c (runs t)

/-- The runs of a literal text. -/
def literalRuns (t : Text) : List Text := runs t.joinLines

theorem flatten_consRun (c : Char) (rs : List Text) :
    (consRun c rs).flatten = c :: rs.flatten := by
  unfold consRun
  split
  · split <;> simp
  · simp

theorem flatten_runs (t : Text) : (runs t).flatten = t := by
  induction t with
  | nil => rfl
  | cons c t ih => rw [runs, flatten_consRun, ih]

theorem ne_nil_of_mem_consRun {c : Char} {rs : List Text} (h : ∀ r ∈ rs, r ≠ []) :
    ∀ r ∈ consRun c rs, r ≠ [] := by
  unfold consRun
  split
  · split
    · intro r hr
      rcases List.mem_cons.1 hr with rfl | hr
      · simp
      · exact h r hr
    · intro r hr
      rcases List.mem_cons.1 hr with rfl | hr
      · simp
      · exact h r (List.mem_cons_of_mem _ hr)
  · intro r hr
    rcases List.mem_cons.1 hr with rfl | hr
    · simp
    · exact h r hr

end CitationStudio.Citation
