import CitationStudio.Proofs.Compiled.RoundTrip
import CitationStudio.Proofs.Lab.Rows
import CitationStudio.Proofs.Render.Withheld

/-! # Rows with fewer arguments

The rows of a lab have the same arguments, each at its place, and differ in which of them are
absent. If a row has no argument that another one lacks, its values are those of the other one with
some withheld, so its text is some of the text of the other one. -/

namespace CitationStudio.Lab

open Part (slotsAll)
open Render (Filling Withheld withheld_map format_withheld)

theorem inputs_withheld (l : Lab) {places places' : List Nat} (h : places ⊆ places') :
    Withheld (l.inputs places') (l.inputs places) := by
  refine withheld_map fun (name, i) _ => ?_
  by_cases hi : i ∈ places
  · exact .inl ((if_pos hi).trans (if_pos (h hi)).symm)
  · exact .inr (if_neg hi)

/-- What a lab says about a failure does not tell which values are absent. -/
theorem render_withheld {l : Lab} (hl : l.renderer = .bracket) {values fewer : List Filling}
    (h : Withheld values fewer) : (l.render fewer).Sublist (l.render values) := by
  unfold render
  rw [hl]
  unfold Renderer.bracket
  obtain ⟨failure, hv, hf⟩ | ⟨text, less, hv, hf, hless⟩ := format_withheld h l.template
  · simp only [hv, hf, List.Sublist.refl]
  · rw [hv, hf]
    exact hless

theorem rows_cases {l : Lab} {draw : Nat → Nat → List Nat} {rs : List Row}
    (h : l.rows draw = .ok rs) :
    rs = [l.refusal] ∨ ∃ choices : List Nat, rs = choices.map l.row := by
  unfold rows at h
  split at h
  · cases h
    exact .inr ⟨[], rfl⟩
  · rename_i total _
    cases h
    exact .inr ⟨(List.range total).map (· + 1), by rw [List.map_map]; rfl⟩
  · cases h
    exact .inl rfl
  · cases h
    exact .inr ⟨_, rfl⟩
  · cases h

/-- Of two rows of a table, the one whose arguments the other one has too has less text. -/
theorem output_sublist {l : Lab} (hl : l.renderer = .bracket) {draw : Nat → Nat → List Nat}
    {rs : List Row} (hrs : l.rows draw = .ok rs) {r r' : Row} (hr : r ∈ rs) (hr' : r' ∈ rs)
    (h : r.places ⊆ r'.places) : r.output.Sublist r'.output := by
  obtain rfl | ⟨choices, rfl⟩ := rows_cases hrs
  · obtain rfl := List.mem_singleton.1 hr
    obtain rfl := List.mem_singleton.1 hr'
    exact List.Sublist.refl _
  · obtain ⟨m, -, rfl⟩ := List.mem_map.1 hr
    obtain ⟨n, -, rfl⟩ := List.mem_map.1 hr'
    rw [places_row, places_row] at h
    exact render_withheld hl (l.inputs_withheld h)

/-- **Withholding values only takes text away.** A template that can be read, with a value for each
slot, renders with some of the values withheld to some of the text it rendered to, in the same
order. So does a row of a lab's table, beside any other row of it that has all of its arguments. -/
theorem withholding_sublist :
    (∀ (template : Text) (ps : List Part) (values fewer : List Filling),
      Compiled.parse [] template = .ok ps → (slotsAll ps).length ≤ values.length →
      Withheld values fewer →
      ∃ text less, Render.format template values = .ok text ∧
        Render.format template fewer = .ok less ∧ less.Sublist text) ∧
    ∀ (l : Lab) (draw : Nat → Nat → List Nat) (rs : List Row), l.renderer = .bracket →
      l.rows draw = .ok rs → ∀ r ∈ rs, ∀ r' ∈ rs, r.places ⊆ r'.places →
      r.output.Sublist r'.output := by
  refine ⟨fun template ps values fewer hparse hlength h => ?_,
    fun l draw rs hl hrs r hr r' hr' h => output_sublist hl hrs hr hr' h⟩
  refine (format_withheld h template).resolve_left ?_
  rintro ⟨failure, hv, -⟩
  rw [Render.format, hparse] at hv
  dsimp only at hv
  rw [if_neg (Nat.not_lt.2 hlength)] at hv
  cases hv

/-- A group in a group, of which the inner one is dropped; and the row of the first argument beside
the row of both. -/
theorem withholding_sublist_inner :
    let ps : List Part := [.group [.slot ['A', 'r', 'g', '1'],
      .group [.literal [','], .slot ['A', 'r', 'g', '2']]]]
    let template := Part.compiledAll ps
    let values : List Filling := [some ['x'], some ['y']]
    let fewer : List Filling := [some ['x'], none]
    let l : Lab := { Lab.new .bracket 4096 .refuse 256 with
      template, names := [['A'], ['B']], mask := [true, true] }
    let rs := [l.row 1, l.row 2, l.row 3]
    Compiled.parse [] template = .ok ps ∧ (slotsAll ps).length ≤ values.length ∧
      Withheld values fewer ∧
      (∃ text less, Render.format template values = .ok text ∧
        Render.format template fewer = .ok less ∧ less.Sublist text) ∧
      l.renderer = .bracket ∧ l.rows firstChoices = .ok rs ∧ l.row 1 ∈ rs ∧ l.row 3 ∈ rs ∧
      (l.row 1).places ⊆ (l.row 3).places ∧ (l.row 1).output.Sublist (l.row 3).output := by
  intro ps template values fewer l rs
  have hparse : Compiled.parse [] template = .ok ps := Compiled.parse_compiled (by decide) []
  have hlength : (slotsAll ps).length ≤ values.length := by decide
  have hfewer : Withheld values fewer := .cons (.inl rfl) (.cons (.inr rfl) .nil)
  have hselection : l.selection = .all 3 := by decide +kernel
  have hrows : l.rows firstChoices = .ok rs := by
    rw [rows, hselection]
    rfl
  have hfirst : l.row 1 ∈ rs := List.mem_cons_self
  have hboth : l.row 3 ∈ rs := List.mem_of_getLast? rfl
  have hplaces : (l.row 1).places ⊆ (l.row 3).places := by
    rw [places_row, places_row]
    decide
  exact ⟨hparse, hlength, hfewer,
    withholding_sublist.1 template ps values fewer hparse hlength hfewer,
    rfl, hrows, hfirst, hboth, hplaces,
    withholding_sublist.2 l firstChoices rs rfl hrows _ hfirst _ hboth hplaces⟩

end CitationStudio.Lab
