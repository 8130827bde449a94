import CitationStudio.Part.Basic

/-! The shape of parts: groups and literal texts without the names of the slots. The compiled
form of a template tells its shape and nothing else, so shapes are what reading and rendering
are about. A part is solid if no group in it is empty; a reader takes solid parts only. -/

namespace CitationStudio.Part

mutual
/-- Is no group in the part empty, however deep? -/
def solid : Part → Bool
  | literal _ => true
  | slot _ => true
  | group ps => !ps.isEmpty && solidAll ps

def solidAll : List Part → Bool
  | [] => true
  | p :: ps => p.solid && solidAll ps
end

mutual
/-- The shape of a part: its slots have no names. -/
def nameless : Part → Part
  | literal t => literal t
  | slot _ => slot []
  | group ps => group (namelessAll ps)

def namelessAll : List Part → List Part
  | [] => []
  | p :: ps => p.nameless :: namelessAll ps
end

@[simp] theorem solid_literal (t : Text) : (literal t).solid = true := rfl

@[simp] theorem solid_slot (n : Text) : (slot n).solid = true := rfl

@[simp] theorem solidAll_nil : solidAll [] = true := rfl

@[simp] theorem solidAll_cons {p : Part} {ps : List Part} :
    solidAll (p :: ps) = true ↔ p.solid = true ∧ solidAll ps = true := by
  simp [solidAll]

@[simp] theorem solid_group {ps : List Part} :
    (group ps).solid = true ↔ ps ≠ [] ∧ solidAll ps = true := by
  simp [solid]

theorem solidAll_iff {ps : List Part} : solidAll ps = true ↔ ∀ p ∈ ps, p.solid = true := by
  induction ps with
  | nil => simp
  | cons p ps ih => rw [solidAll_cons, ih, List.forall_mem_cons]

theorem namelessAll_eq_nil {ps : List Part} : namelessAll ps = [] ↔ ps = [] := by
  cases ps <;> simp [namelessAll]

theorem namelessAll_length (ps : List Part) : (namelessAll ps).length = ps.length := by
  induction ps with
  | nil => rfl
  | cons p ps ih => rw [namelessAll, List.length_cons, List.length_cons, ih]

/-- What has the shape of one group is one group, with as many parts. -/
theorem eq_group_of_namelessAll {ps qs : List Part} (h : namelessAll ps = namelessAll [group qs]) :
    ∃ rs, ps = [group rs] ∧ rs.length = qs.length := by
  cases ps with
  | nil => cases h
  | cons p ps =>
    rw [namelessAll, namelessAll, namelessAll, List.cons.injEq, namelessAll_eq_nil] at h
    obtain ⟨hp, rfl⟩ := h
    cases p with
    | literal t => cases hp
    | slot n => cases hp
    | group rs =>
      rw [nameless, nameless, group.injEq] at hp
      refine ⟨rs, rfl, ?_⟩
      rw [← namelessAll_length rs, hp, namelessAll_length]

mutual
theorem slots_nameless_length : ∀ p : Part, p.nameless.slots.length = p.slots.length
  | literal _ => rfl
  | slot _ => rfl
  | group ps => slotsAll_nameless_length ps

theorem slotsAll_nameless_length :
    ∀ ps : List Part, (slotsAll (namelessAll ps)).length = (slotsAll ps).length
  | [] => rfl
  | p :: ps => by
    simp only [namelessAll, slotsAll, List.length_append, slots_nameless_length p,
      slotsAll_nameless_length ps]
end

mutual
theorem solid_nameless : ∀ p : Part, p.nameless.solid = p.solid
  | literal _ => rfl
  | slot _ => rfl
  | group ps => by
    have he : (namelessAll ps).isEmpty = ps.isEmpty := by cases ps <;> rfl
    rw [nameless, solid, solid, he, solidAll_namelessAll ps]

theorem solidAll_namelessAll : ∀ ps : List Part, solidAll (namelessAll ps) = solidAll ps
  | [] => rfl
  | p :: ps => by
    rw [namelessAll, solidAll, solidAll, solid_nameless p, solidAll_namelessAll ps]
end

mutual
theorem compiled_nameless : ∀ p : Part, p.nameless.compiled = p.compiled
  | literal _ => rfl
  | slot _ => rfl
  | group ps => by rw [nameless, compiled, compiled, compiledJoined_namelessAll ps]

theorem compiledJoined_namelessAll :
    ∀ ps : List Part, compiledJoined (namelessAll ps) = compiledJoined ps
  | [] => rfl
  | p :: ps => by
    have hps := compiledJoined_namelessAll ps
    cases ps with
    | nil => exact compiled_nameless p
    | cons q qs =>
      rw [namelessAll] at hps
      rw [namelessAll, namelessAll, compiledJoined, compiledJoined, hps, compiled_nameless p]
end

theorem compiledAll_namelessAll (ps : List Part) :
    compiledAll (namelessAll ps) = compiledAll ps := by
  induction ps with
  | nil => rfl
  | cons p ps ih => rw [namelessAll, compiledAll, compiledAll, compiled_nameless, ih]

/-- The display of a group is the display of its parts, so grouping hides nothing. -/
theorem displayAll_group (before inner after : List Part) :
    displayAll (before ++ group inner :: after) = displayAll (before ++ inner ++ after) := by
  simp only [displayAll_append, displayAll, display, List.append_assoc]

/-! ## Putting a run of parts into a group -/

/-- The entries up to the place `stop`, in two. -/
theorem take_stretch {α : Type} (xs : List α) {first stop : Nat} (h : first ≤ stop) :
    xs.take first ++ (xs.take stop).drop first = xs.take stop := by
  have ht : (xs.take stop).take first = xs.take first := by
    rw [List.take_take, Nat.min_eq_left h]
  rw [← ht, List.take_append_drop]

/-- The parts with a group in place of those from the place `first` to the place `last`. -/
def grouped (ps : List Part) (first last : Nat) : List Part :=
  ps.take first ++ .group ((ps.take (last + 1)).drop first) :: ps.drop (last + 1)

section Grouped

variable {ps : List Part} {first last : Nat}

theorem displayAll_grouped (h : first ≤ last) :
    displayAll (grouped ps first last) = displayAll ps := by
  rw [grouped, displayAll_group, take_stretch ps (Nat.le_succ_of_le h), List.take_append_drop]

theorem slotsAll_grouped (h : first ≤ last) : slotsAll (grouped ps first last) = slotsAll ps := by
  rw [grouped, slotsAll_append, slotsAll, slots, ← List.append_assoc, ← slotsAll_append,
    take_stretch ps (Nat.le_succ_of_le h), ← slotsAll_append, List.take_append_drop]

/-- A run that holds a part makes a solid group of solid parts. -/
theorem solidAll_grouped (h : first ≤ last) (hl : last < ps.length) (hs : solidAll ps = true) :
    solidAll (grouped ps first last) = true := by
  rw [solidAll_iff] at hs
  rw [solidAll_iff]
  intro p hp
  rcases List.mem_append.1 hp with hp | hp
  · exact hs p (List.mem_of_mem_take hp)
  rcases List.mem_cons.1 hp with rfl | hp
  · rw [solid_group]
    constructor
    · intro hn
      have := congrArg List.length hn
      simp only [List.length_take, List.length_drop, List.length_nil] at this
      omega
    · rw [solidAll_iff]
      exact fun q hq => hs q (List.mem_of_mem_take (List.mem_of_mem_drop hq))
  · exact hs p (List.mem_of_mem_drop hp)

end Grouped

/-! ## Compiled forms -/

/-- The compiled form of a part starts a literal, a slot or a group. -/
theorem compiled_head (p : Part) : p.compiled.head? = some '{' ∨ p.compiled.head? = some '[' := by
  cases p with
  | literal t => exact .inl rfl
  | slot n => exact .inr rfl
  | group ps => exact .inr rfl

/-- Only a template without parts compiles to a blank text. -/
theorem isBlank_compiledAll {ps : List Part} : (compiledAll ps).isBlank = true ↔ ps = [] := by
  cases ps with
  | nil => simp [compiledAll]
  | cons p ps =>
    have hs : Text.isSpace '{' = false ∧ Text.isSpace '[' = false := by decide
    cases hc : p.compiled with
    | nil => have h := compiled_head p; simp [hc] at h
    | cons c t =>
      have h := compiled_head p
      rw [hc, List.head?_cons, Option.some.injEq, Option.some.injEq] at h
      rw [compiledAll, hc, List.cons_append, Text.isBlank_cons]
      rcases h with rfl | rfl
      · simp [hs.1]
      · simp [hs.2]

end CitationStudio.Part
