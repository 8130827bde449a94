import CitationStudio.Marking.Session
import CitationStudio.Proofs.Document.Readable

/-! # Reading what a session sends

A session compiles its document and names the expressions in it. What it sends is meant to be
read as one group with a part for each run of the document. It is, unless a literal run ends in
an odd number of backslashes: the last of these takes the closing brace of its own run, and then
there is no part for this run, if the text can be read at all. -/

namespace CitationStudio.Marking.Session

open Part (namelessAll slotsAll)

variable {σ : Type}

theorem normalize_document (s : Session σ) : s.state.document.normalize = s.state.document :=
  Document.normalize_of_isNormal (Document.isNormal_ofSpans _ _)

theorem document_ne_nil {s : Session σ} (h : s.state.expanded ≠ []) : s.state.document ≠ [] := by
  intro hd
  have ht : s.state.document.text = s.state.expanded := Document.text_ofSpans _ _
  rw [hd] at ht
  exact h ht.symm

theorem slotNames_nil (s : Session σ) :
    Compiled.slotNames [] (s.state.document.countP Segment.isExpr) = s.names := rfl

theorem length_names (s : Session σ) :
    s.names.length = s.state.document.countP Segment.isExpr := by
  rw [← slotNames_nil, Compiled.slotNames_length]

/-- Without dangling runs the parts that are read are those of the runs. -/
theorem parse_compiled {s : Session σ} (hne : s.state.expanded ≠ [])
    (h : ∀ r ∈ s.state.document, r.dangles = false) :
    ∃ children, Compiled.parse [] s.state.compiled = .ok [.group children] ∧
      namelessAll children = s.state.document.map Segment.part ∧ slotsAll children = s.names := by
  have hskeleton := Document.skeleton_compiled
    (d := s.state.document) (by rw [normalize_document]; exact document_ne_nil hne)
    (by rw [normalize_document]; exact h)
  rw [normalize_document] at hskeleton
  refine ⟨(Compiled.relabelAll (s.state.document.map Segment.part) s.names).1, ?_, ?_, ?_⟩
  · rw [Compiled.parse, FoldedText.compiled, hskeleton]
    simp only [slotsAll, List.append_nil, Part.slots, Document.slotsAll_parts, slotNames_nil,
      Compiled.relabelAll, Compiled.relabel]
  · rw [Compiled.namelessAll_relabelAll, Document.namelessAll_parts]
  · refine Compiled.slotsAll_relabelAll ?_
    rw [length_names, Document.slotsAll_parts]

/-- Dangling runs are missing from the group that is read. -/
theorem children_length_le {s : Session σ} {children : List Part}
    (h : Compiled.parse [] s.state.compiled = .ok [.group children]) :
    children.length + s.state.document.countP Segment.dangles ≤ s.state.document.length := by
  obtain ⟨ps, hps, hshape⟩ := Compiled.skeleton_of_parse h
  obtain ⟨read, rfl, hlength⟩ := Part.eq_group_of_namelessAll hshape
  have hle := Document.group_length_le hps
  rwa [normalize_document, hlength] at hle

/-- **What a session sends is read run by run** exactly if no literal run ends in an odd number of
backslashes: as one group with a part for each run, in order, and a slot for each name. -/
theorem compiled_read_iff (s : Session σ) (hne : s.state.expanded ≠ []) :
    let runs := s.state.document
    ((∃ children, Compiled.parse [] s.state.compiled = .ok [.group children] ∧
        children.length = runs.length ∧ (slotsAll children).length = s.names.length) ↔
      ∀ r ∈ runs, r.dangles = false) ∧
    ((∀ r ∈ runs, r.dangles = false) →
      ∃ children, Compiled.parse [] s.state.compiled = .ok [.group children] ∧
        namelessAll children = runs.map Segment.part ∧ slotsAll children = s.names) := by
  intro runs
  refine ⟨⟨?_, fun h => ?_⟩, parse_compiled hne⟩
  · rintro ⟨children, hparse, hlength, -⟩ r hr
    have hle : children.length + runs.countP Segment.dangles ≤ runs.length :=
      children_length_le hparse
    have hnone : runs.countP Segment.dangles = 0 := by omega
    exact Bool.eq_false_iff.2 (List.countP_eq_zero.1 hnone r hr)
  · obtain ⟨children, hparse, hshape, hslots⟩ := parse_compiled hne h
    refine ⟨children, hparse, ?_, congrArg List.length hslots⟩
    rw [← Part.namelessAll_length, hshape, List.length_map]

/-- Two backslashes before a marked letter, and a brace and a bracket behind it. -/
theorem compiled_read_pair :
    let s := (new (none : Option TextBox) ['\\', '\\', 'x', '}', ']']).toExpr (some (2, 3))
    s.1.state.expanded ≠ [] ∧ (∀ r ∈ s.1.state.document, r.dangles = false) ∧
      ∃ children, Compiled.parse [] s.1.state.compiled = .ok [.group children] ∧
        namelessAll children = [.literal ['\\'], .slot [], .literal [')', ']']] ∧
        slotsAll children = [['A', 'r', 'g', '1']] := by
  intro s
  have hne : s.1.state.expanded ≠ [] := by decide
  have hwhole : ∀ r ∈ s.1.state.document, r.dangles = false := by decide
  exact ⟨hne, hwhole, (compiled_read_iff s.1 hne).2 hwhole⟩

/-- A text that ends in a backslash is not read back. -/
theorem not_compiled_read :
    ¬ ∀ s : Session TextBox, s.state.expanded ≠ [] →
      ∃ children, Compiled.parse [] s.state.compiled = .ok [.group children] ∧
        children.length = s.state.document.length ∧
        (slotsAll children).length = s.names.length := by
  intro h
  obtain ⟨children, hparse, hlength, -⟩ := h (new none ['\\']) (by decide)
  have hle := children_length_le hparse
  have hlost : (new (none : Option TextBox) ['\\']).state.document.countP Segment.dangles = 1 := by
    decide
  omega

end CitationStudio.Marking.Session
