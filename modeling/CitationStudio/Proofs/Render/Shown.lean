import CitationStudio.Render.Basic
import CitationStudio.Proofs.Compiled.RoundTrip

/-! # Rendering what an author sees

Rendering looks at the shape of the parts only. If each slot is given its own name as its value,
nothing is dropped and the text that comes out is the one that is displayed. -/

namespace CitationStudio.Render

open Part (nameless namelessAll slotsAll displayAll)

mutual
theorem part_nameless : ∀ (p : Part) (vs : List Filling), part p.nameless vs = part p vs
  | .literal _, _ => rfl
  | .slot _, [] => rfl
  | .slot _, none :: _ => rfl
  | .slot _, some _ :: _ => rfl
  | .group ps, vs => by simp only [nameless, part, parts_namelessAll ps]

theorem parts_namelessAll : ∀ (ps : List Part) (vs : List Filling),
    parts (namelessAll ps) vs = parts ps vs
  | [], _ => rfl
  | p :: ps, vs => by simp only [namelessAll, parts, part_nameless p, parts_namelessAll ps]
end

theorem parts_congr_shape {ps qs : List Part} (h : namelessAll ps = namelessAll qs)
    (vs : List Filling) : parts ps vs = parts qs vs := by
  rw [← parts_namelessAll ps, h, parts_namelessAll]

mutual
/-- Given their own names, slots show them, and no group is dropped. -/
theorem part_own_names : ∀ (p : Part) (rest : List Filling),
    part p (p.slots.map some ++ rest) = ⟨p.display, false, rest⟩
  | .literal _, _ => rfl
  | .slot _, _ => rfl
  | .group ps, rest => by
    simp only [Part.slots, part, parts_own_names ps rest, Part.display, Bool.false_eq_true,
      if_false]

theorem parts_own_names : ∀ (ps : List Part) (rest : List Filling),
    parts ps ((slotsAll ps).map some ++ rest) = ⟨displayAll ps, false, rest⟩
  | [], _ => rfl
  | p :: ps, rest => by
    simp only [slotsAll, parts, List.map_append, List.append_assoc, part_own_names p,
      parts_own_names ps rest, displayAll, Bool.or_self]
end

/-- A template renders as its shape does; it takes a value for each slot. -/
theorem format_of_skeleton {t : Text} {ps : List Part} (h : Compiled.skeleton t = .ok ps)
    (vs : List Filling) :
    format t vs =
      if vs.length < (slotsAll ps).length then .error (.missing (slotsAll ps).length vs.length)
      else .ok (parts ps vs).text := by
  let qs := (Compiled.relabelAll ps (Compiled.slotNames [] (slotsAll ps).length)).1
  have hqs : namelessAll qs = namelessAll ps := Compiled.namelessAll_relabelAll ps _
  have hcount : (slotsAll qs).length = (slotsAll ps).length := by
    rw [← Part.slotsAll_nameless_length qs, hqs, Part.slotsAll_nameless_length]
  have hparse : Compiled.parse [] t = .ok qs := by
    rw [Compiled.parse, h]
  simp only [format, hparse, hcount, parts_congr_shape hqs]

/-- The compiled form of solid parts renders as the parts do, whatever their slots are called. -/
theorem format_compiled {ps : List Part} (h : Part.solidAll ps = true) (vs : List Filling) :
    format (Part.compiledAll ps) vs =
      if vs.length < (slotsAll ps).length then .error (.missing (slotsAll ps).length vs.length)
      else .ok (parts ps vs).text := by
  rw [format_of_skeleton (Compiled.skeleton_compiledAll h), parts_namelessAll,
    Part.slotsAll_nameless_length]

theorem format_compiled_of_le {ps : List Part} {vs : List Filling} (h : Part.solidAll ps = true)
    (hv : (slotsAll ps).length ≤ vs.length) :
    format (Part.compiledAll ps) vs = .ok (parts ps vs).text := by
  rw [format_compiled h, if_neg (Nat.not_lt.2 hv)]

/-- With a value for each slot, the compiled form of solid parts renders to what they display
once the slots have these names. -/
theorem format_named {ps : List Part} {names : List Text} (h : Part.solidAll ps = true)
    (hn : names.length = (slotsAll ps).length) :
    format (Part.compiledAll ps) (names.map some) =
      .ok (displayAll (Compiled.relabelAll (namelessAll ps) names).1) := by
  let rs := (Compiled.relabelAll (namelessAll ps) names).1
  have hrs : namelessAll rs = namelessAll ps := by
    rw [Compiled.namelessAll_relabelAll, Compiled.namelessAll_namelessAll]
  have hnames : slotsAll rs = names :=
    Compiled.slotsAll_relabelAll (hn.trans (Part.slotsAll_nameless_length ps).symm)
  have hparts : parts ps (names.map some) = ⟨displayAll rs, false, []⟩ := by
    have ho := parts_own_names rs []
    rw [List.append_nil, hnames] at ho
    rw [parts_congr_shape hrs.symm, ho]
  have hcount : (slotsAll ps).length = (names.map some).length := by
    rw [List.length_map, hn]
  rw [format_compiled_of_le h (Nat.le_of_eq hcount), hparts]

theorem format_own_names {ps : List Part} (h : Part.solidAll ps = true) :
    format (Part.compiledAll ps) ((slotsAll ps).map some) = .ok (displayAll ps) := by
  have hr := Compiled.relabelAll_namelessAll ps []
  rw [List.append_nil] at hr
  rw [format_named h rfl, hr]

end CitationStudio.Render
