import CitationStudio.Proofs.Compiled.Grammar
import CitationStudio.Proofs.Document.Marked

/-! # Reading a compiled document

The compiled form of a document holds the texts of its literal runs as they are, apart from
closing braces. A reader takes a backslash together with the character after it, so a run whose
last backslash has no character of its own takes the run's closing brace instead (`dangles`), and
the literal goes on into the runs behind it, up to the next closing brace that is left. Without
such a run the compiled form is read as one group with a part for each run; each such run is at
least one part that is missing. -/

namespace CitationStudio

open Compiled (Spells SpellsItems SpellsAll literalBody)

/-! ## Where a literal ends -/

namespace Compiled

/-- How many backslashes a text ends in. -/
def backslashesAtEnd (t : Text) : Nat := (t.reverse.takeWhile (· = '\\')).length

theorem backslashesAtEnd_le (t : Text) : backslashesAtEnd t ≤ t.length := by
  have h := (List.takeWhile_prefix (· = '\\') (l := t.reverse)).length_le
  rwa [List.length_reverse] at h

theorem backslashesAtEnd_cons (c : Char) (t : Text) :
    backslashesAtEnd (c :: t) = backslashesAtEnd t +
      if backslashesAtEnd t = t.length ∧ c = '\\' then 1 else 0 := by
  simp only [backslashesAtEnd, List.reverse_cons, List.takeWhile_append, List.length_reverse]
  by_cases ha : (t.reverse.takeWhile (· = '\\')).length = t.length
  · by_cases hc : c = '\\' <;> simp [ha, hc]
  · simp [ha]

/-- A backslash and the character after it do not change whether the number is odd. -/
theorem backslashesAtEnd_pair (c : Char) (t : Text) :
    backslashesAtEnd ('\\' :: c :: t) % 2 = backslashesAtEnd t % 2 := by
  have hle := backslashesAtEnd_le t
  rw [backslashesAtEnd_cons, backslashesAtEnd_cons c t, List.length_cons]
  by_cases ha : backslashesAtEnd t = t.length
  · by_cases hc : c = '\\'
    · simp only [ha, hc, and_self, if_true]
      omega
    · simp [ha, hc]
  · have hne : backslashesAtEnd t ≠ t.length + 1 := by omega
    simp [ha, hne]

theorem backslashesAtEnd_plain {c : Char} (h : c ≠ '\\') (t : Text) :
    backslashesAtEnd (c :: t) = backslashesAtEnd t := by
  simp [backslashesAtEnd_cons, h]

/-- Backslashes are counted back to the last other character. -/
theorem backslashesAtEnd_append {c : Char} (h : c ≠ '\\') (u t : Text) :
    backslashesAtEnd (u ++ c :: t) = backslashesAtEnd t := by
  induction u with
  | nil => exact backslashesAtEnd_plain h t
  | cons d u ih =>
    -- not all characters behind `d` are backslashes
    have hle := backslashesAtEnd_le t
    rw [List.cons_append, backslashesAtEnd_cons, ih, if_neg, Nat.add_zero]
    intro hall
    have hlength := hall.1
    rw [List.length_append, List.length_cons] at hlength
    omega

/-- The last backslash of a literal that is not closed is left over exactly if there are an odd
number of them. -/
theorem backslashesAtEnd_of_error {t : Text} {dangling : Bool}
    (h : literalBody t = .error dangling) :
    backslashesAtEnd t % 2 = if dangling then 1 else 0 := by
  fun_induction literalBody t generalizing dangling with
  | case1 => cases h; rfl
  | case2 => cases h; rfl
  | case3 => cases h
  | case4 c t d ht ih =>
    cases h
    rw [backslashesAtEnd_pair, ih ht]
  | case5 => cases h
  | case6 => cases h
  | case7 c t hlone hpair _ d ht ih =>
    cases h
    rw [backslashesAtEnd_plain (ne_backslash hlone hpair), ih ht]

/-- A text without a closing brace closes no literal. What is left over is the last backslash, if
there are an odd number of them at the end. -/
theorem literalBody_eq_error {t : Text} (h : '}' ∉ t) :
    literalBody t = .error (decide (backslashesAtEnd t % 2 = 1)) := by
  cases hb : literalBody t with
  | ok found =>
    obtain ⟨body, rest⟩ := found
    rw [literalBody_append hb] at h
    exact absurd (List.mem_append_right _ (List.mem_cons_self ..)) h
  | error dangling =>
    have hodd := backslashesAtEnd_of_error hb
    cases dangling <;> simp [hodd]

/-- A closing brace behind such a text closes the literal, unless a backslash is left over: that
one takes the brace, and the literal goes on. -/
theorem literalBody_brace {u : Text} {dangling : Bool} (h : literalBody u = .error dangling)
    (t : Text) : literalBody (u ++ '}' :: t) =
      if dangling then (literalBody t).map fun (body, rest) => (u ++ '}' :: body, rest)
      else .ok (u, t) := by
  fun_induction literalBody u generalizing dangling with
  | case1 => cases h; simp [literalBody]
  | case2 =>
    cases h
    rw [List.cons_append, List.nil_append, literalBody]
    cases literalBody t <;> rfl
  | case3 => cases h
  | case4 c u d hu ih =>
    cases h
    rw [List.cons_append, List.cons_append, literalBody, ih hu]
    cases d with
    | false => rfl
    | true => cases literalBody t <;> rfl
  | case5 => cases h
  | case6 => cases h
  | case7 c u hlone hpair hc d hu ih =>
    cases h
    rw [List.cons_append, literalBody_plain (ne_backslash hlone hpair) hc, ih hu]
    cases d with
    | false => rfl
    | true => cases literalBody t <;> rfl

theorem rest_of_map {read : Except Bool (Text × Text)} {f : Text → Text} {body rest : Text}
    (h : (read.map fun (b, r) => (f b, r)) = .ok (body, rest)) : ∃ b, read = .ok (b, rest) := by
  cases read with
  | error dangling => cases h
  | ok r =>
    cases h
    exact ⟨r.1, rfl⟩

theorem literalBody_of_plain {u t body rest : Text} (h1 : '\\' ∉ u) (h2 : '}' ∉ u)
    (h : literalBody (u ++ t) = .ok (body, rest)) : ∃ b, literalBody t = .ok (b, rest) := by
  induction u generalizing body with
  | nil => exact ⟨body, h⟩
  | cons c u ih =>
    rw [List.mem_cons, not_or] at h1 h2
    rw [List.cons_append, literalBody_plain (Ne.symm h1.1) (Ne.symm h2.1)] at h
    obtain ⟨b, hb⟩ := rest_of_map h
    exact ih h1.2 h2.2 hb

end Compiled

open Compiled (backslashesAtEnd literalBody_of_plain)

namespace Segment

/-- What stands between the braces of a literal segment. -/
def body (s : Segment) : Text := s.text.map fun c => if c = '}' then ')' else c

/-- The part that a segment is meant to be. -/
def part (s : Segment) : Part :=
  if s.isExpr then .slot [] else .literal (Part.unescape s.body)

/-- Does the last backslash of a literal segment take its closing brace? It does if there are an
odd number of them at the end. -/
def dangles (s : Segment) : Bool := !s.isExpr && backslashesAtEnd s.text % 2 = 1

theorem compiled_expr {s : Segment} (h : s.isExpr = true) : s.compiled = Part.slotMark := by
  rw [compiled, if_pos h]
  rfl

theorem compiled_literal {s : Segment} (h : s.isExpr = false) :
    s.compiled = '{' :: s.body ++ ['}'] := by
  rw [compiled, h, if_neg Bool.false_ne_true]
  rfl

theorem compiled_append {s : Segment} (h : s.isExpr = false) (t : Text) :
    s.compiled ++ t = '{' :: (s.body ++ '}' :: t) := by
  rw [compiled_literal h, List.cons_append, List.cons_append, List.append_assoc]
  rfl

theorem compiled_ne_nil (s : Segment) : s.compiled ≠ [] := by
  cases he : s.isExpr with
  | true => rw [compiled_expr he]; exact List.cons_ne_nil _ _
  | false => rw [compiled_literal he]; exact List.cons_ne_nil _ _

theorem part_nameless (s : Segment) : s.part.nameless = s.part := by
  unfold part
  split <;> rfl

theorem not_mem_body (s : Segment) : '}' ∉ s.body := by
  rw [body, List.mem_map]
  rintro ⟨c, -, hc⟩
  split at hc
  · cases hc
  · rename_i hne
    exact hne hc

theorem backslashesAtEnd_body (s : Segment) :
    backslashesAtEnd s.body = backslashesAtEnd s.text := by
  have hc : ((fun c => decide (c = '\\')) ∘ fun c : Char => if c = '}' then ')' else c) =
      fun c => decide (c = '\\') := by
    funext c
    by_cases h : c = '}' <;> simp [h]
  rw [backslashesAtEnd, body, ← List.map_reverse, List.takeWhile_map, hc, List.length_map]
  rfl

/-- Where the literal of a segment ends. -/
theorem literalBody_body {s : Segment} (h : s.isExpr = false) (t : Text) :
    literalBody (s.body ++ '}' :: t) =
      if s.dangles then (literalBody t).map fun (b, rest) => (s.body ++ '}' :: b, rest)
      else .ok (s.body, t) := by
  rw [Compiled.literalBody_brace (Compiled.literalBody_eq_error s.not_mem_body),
    backslashesAtEnd_body, dangles, h]
  rfl

/-- The literal of a run ends with the run, or goes on behind it. -/
theorem literalBody_run {s : Segment} (he : s.isExpr = false) {t body rest : Text}
    (h : literalBody (s.body ++ '}' :: t) = .ok (body, rest)) :
    (s.dangles = false ∧ rest = t) ∨ ∃ b, literalBody t = .ok (b, rest) := by
  rw [literalBody_body he] at h
  split at h
  · exact .inr (Compiled.rest_of_map (f := fun b => s.body ++ '}' :: b) h)
  · rename_i hs
    cases h
    exact .inl ⟨by simpa using hs, rfl⟩

theorem spells_part {s : Segment} (h : s.dangles = false) : Spells s.compiled s.part := by
  cases he : s.isExpr with
  | true =>
    rw [compiled_expr he, part, if_pos he]
    exact .slot
  | false =>
    have hb := literalBody_body he []
    rw [h, if_neg Bool.false_ne_true] at hb
    rw [compiled_literal he, part, he, if_neg Bool.false_ne_true]
    exact .literal (Compiled.body_of_literalBody hb)

end Segment

namespace Document

open Part (namelessAll slotsAll)

/-- The compiled forms of segments, each with a plus before it. -/
def compiledRest : Document → Text
  | [] => []
  | s :: d => '+' :: s.compiled ++ compiledRest d

theorem compiledJoined_cons (s : Segment) (d : Document) :
    compiledJoined (s :: d) = s.compiled ++ compiledRest d := by
  induction d generalizing s with
  | nil => simp [compiledJoined, compiledRest]
  | cons s' d ih => rw [compiledJoined, ih s', compiledRest]; rfl

/-! ## Runs that are read -/

/-- Runs that do not dangle spell their parts. -/
theorem spells_runs {d : Document} (hne : d ≠ []) (h : ∀ s ∈ d, s.dangles = false) :
    SpellsItems d.compiledJoined (d.map Segment.part) := by
  induction d with
  | nil => exact absurd rfl hne
  | cons s d ih =>
    have hs := Segment.spells_part (h s (List.mem_cons_self ..))
    cases d with
    | nil => exact .one hs
    | cons s' d =>
      exact .more hs (ih (List.cons_ne_nil _ _) fun r hr => h r (List.mem_cons_of_mem _ hr))

theorem compiled_eq {d : Document} (h : d.normalize ≠ []) :
    d.compiled = '[' :: compiledJoined d.normalize ++ [']'] := by
  unfold compiled
  split
  · rename_i hn
    exact absurd hn h
  · rfl

/-- A document without dangling runs is read as one group with a part for each run. -/
theorem skeleton_compiled {d : Document} (hne : d.normalize ≠ [])
    (h : ∀ s ∈ d.normalize, s.dangles = false) :
    Compiled.skeleton d.compiled = .ok [.group (d.normalize.map Segment.part)] := by
  have hall := SpellsAll.cons (.group (spells_runs hne h)) .nil
  rw [List.append_nil, ← compiled_eq hne] at hall
  exact Compiled.skeleton_eq_ok_iff.2 (.inr hall)

theorem namelessAll_parts (d : Document) :
    namelessAll (d.map Segment.part) = d.map Segment.part := by
  induction d with
  | nil => rfl
  | cons s d ih => rw [List.map_cons, namelessAll, s.part_nameless, ih]

theorem slotsAll_parts (d : Document) :
    (slotsAll (d.map Segment.part)).length = d.countP Segment.isExpr := by
  induction d with
  | nil => rfl
  | cons s d ih =>
    rw [List.map_cons, slotsAll, List.length_append, ih, List.countP_cons, Segment.part]
    cases s.isExpr <;> simp [Part.slots, Nat.add_comm]

/-! ## Runs that are lost

What is read off the compiled runs is measured against them: after each part the reader is at the
end of a run that does not dangle, and a part takes up all dangling runs before that end. -/

/-- A text is what is left of the runs behind one that does not dangle. -/
def EndsRun (d : Document) (rest : Text) : Prop :=
  ∃ lost s behind, d = lost ++ s :: behind ∧ s.dangles = false ∧ rest = compiledRest behind

theorem EndsRun.cons {d : Document} {rest : Text} (h : EndsRun d rest) (s : Segment) :
    EndsRun (s :: d) rest := by
  obtain ⟨lost, r, behind, rfl, hr, hrest⟩ := h
  exact ⟨s :: lost, r, behind, rfl, hr, hrest⟩

/-- The runs up to the end are fewer by one than those that count, the dangling ones. -/
theorem EndsRun.count {d : Document} {rest : Text} (h : EndsRun d rest) :
    ∃ behind : Document, rest = compiledRest behind ∧ behind.length < d.length ∧
      behind.length + 1 + d.countP Segment.dangles ≤
        d.length + behind.countP Segment.dangles := by
  obtain ⟨lost, s, behind, rfl, hs, hrest⟩ := h
  have hlost := List.countP_le_length (p := Segment.dangles) (l := lost)
  refine ⟨behind, hrest, ?_, ?_⟩
  · simp only [List.length_append, List.length_cons]
    omega
  · simp only [List.countP_append, List.countP_cons, hs, List.length_append, List.length_cons,
      Bool.false_eq_true, if_false]
    omega

/-- A literal that goes on into the runs behind it ends with one of them. -/
theorem endsRun_of_literalBody {d : Document} {body rest : Text}
    (h : literalBody d.compiledRest = .ok (body, rest)) : EndsRun d rest := by
  induction d generalizing body with
  | nil => cases h
  | cons s d ih =>
    rw [compiledRest] at h
    cases he : s.isExpr with
    | true =>
      rw [Segment.compiled_expr he] at h
      obtain ⟨b, hb⟩ := literalBody_of_plain (u := '+' :: Part.slotMark) (by decide)
        (by decide) h
      exact (ih hb).cons s
    | false =>
      rw [List.cons_append, Segment.compiled_append he] at h
      obtain ⟨b, hb⟩ := literalBody_of_plain (u := ['+', '{']) (by decide) (by decide) h
      rcases Segment.literalBody_run he hb with ⟨hs, hrest⟩ | ⟨b', hb'⟩
      · exact ⟨[], s, d, rfl, hs, hrest⟩
      · exact (ih hb').cons s

/-- The first part that is read ends with a run. -/
theorem endsRun_of_spells {t rest : Text} {p : Part} (hp : Spells t p) {s : Segment}
    {d : Document} (h : t ++ rest = compiledJoined (s :: d)) : EndsRun (s :: d) rest := by
  rw [compiledJoined_cons] at h
  cases he : s.isExpr with
  | true =>
    have hs : s.dangles = false := by rw [Segment.dangles, he]; rfl
    rw [Segment.compiled_expr he] at h
    cases hp with
    | literal _ => cases h
    | slot => exact ⟨[], s, d, rfl, hs, List.append_cancel_left h⟩
    | group hi =>
      -- a group does not begin like a slot
      rw [List.cons_append, List.cons_append, List.append_assoc, Part.slotMark, List.cons_append,
        List.cons_append, List.cons.injEq] at h
      exact absurd (congrArg List.head? h.2) (hi.head?_ne _)
  | false =>
    rw [Segment.compiled_append he] at h
    cases hp with
    | @literal body hb =>
      rw [List.cons_append, List.cons_append, List.append_assoc, List.cons.injEq] at h
      have hbody := hb.literalBody rest
      rw [show body ++ '}' :: rest = s.body ++ '}' :: compiledRest d from h.2] at hbody
      rcases Segment.literalBody_run he hbody with ⟨hs, hrest⟩ | ⟨b, hb⟩
      · exact ⟨[], s, d, rfl, hs, hrest⟩
      · exact (endsRun_of_literalBody hb).cons s
    | slot => cases h
    | group _ => cases h

/-- **Every dangling run is a part that is missing**: what is read off the runs has at most so
many parts as there are runs that do not dangle. -/
theorem items_length_le {d : Document} {ps : List Part} (h : SpellsItems d.compiledJoined ps) :
    ps.length + d.countP Segment.dangles ≤ d.length := by
  cases d with
  | nil => exact absurd rfl h.ne_nil
  | cons s d =>
    generalize ht : compiledJoined (s :: d) = t at h
    cases h with
    | one hp =>
      obtain ⟨behind, hrest, -, hcount⟩ :=
        (endsRun_of_spells hp ((List.append_nil _).trans ht.symm)).count
      cases behind with
      | nil => simpa [Nat.add_comm] using hcount
      | cons r behind => cases hrest
    | trailing hp =>
      -- no run is nothing but a plus
      obtain ⟨behind, hrest, -, -⟩ := (endsRun_of_spells hp ht.symm).count
      cases behind with
      | nil => cases hrest
      | cons r behind =>
        rw [compiledRest, List.cons_append, List.cons.injEq] at hrest
        exact absurd (List.append_eq_nil_iff.1 hrest.2.symm).1 r.compiled_ne_nil
    | @more t u p ps hp hi =>
      obtain ⟨behind, hrest, hlt, hcount⟩ := (endsRun_of_spells hp ht.symm).count
      cases behind with
      | nil => cases hrest
      | cons r behind =>
        rw [compiledRest, List.cons_append, List.cons.injEq, ← compiledJoined_cons] at hrest
        have hle := items_length_le (hrest.2 ▸ hi)
        rw [List.length_cons]
        omega
termination_by d.length

/-- If the compiled form is read as one group, this has no part for a dangling run. -/
theorem group_length_le {d : Document} {ps : List Part}
    (h : Compiled.skeleton d.compiled = .ok [.group ps]) :
    ps.length + d.normalize.countP Segment.dangles ≤ d.normalize.length := by
  by_cases hne : d.normalize = []
  · rw [compiled, hne] at h
    cases h
  · rw [compiled_eq hne] at h
    obtain ⟨-, h⟩ | h := Compiled.skeleton_eq_ok_iff.1 h
    · cases h
    · generalize ht : '[' :: compiledJoined d.normalize ++ [']'] = t at h
      cases h with
      | cons hp hu =>
        cases hu
        cases hp with
        | group hi =>
          rw [List.append_nil, List.cons_append, List.cons_append, List.cons.injEq] at ht
          rw [← List.append_cancel_right ht.2] at hi
          exact items_length_le hi
      | plus hp hu =>
        -- the text ends in a bracket
        cases hu
        exact absurd (List.append_inj' ht rfl).2 (by decide)

end Document

end CitationStudio
