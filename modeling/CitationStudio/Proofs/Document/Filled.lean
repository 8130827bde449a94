import CitationStudio.Fold.Basic
import CitationStudio.Proofs.Document.Readable
import CitationStudio.Proofs.Render.Meaning
import CitationStudio.Proofs.Render.Shown

/-! # Filling in the expressions of a document

The compiled form of a document is one group, with a slot for each expression. Rendered with a value
for each of these, it gives the text of the document with the values in place of the expressions; if
one of the values is absent it gives nothing. This asks for a text without backslashes, since the
literal runs are not escaped: brackets and plus signs mean nothing between braces, and closing
braces have become parentheses, but a backslash would hide the character after it. -/

namespace CitationStudio

open Render (Filling lacks meaning meaningAll)

/-! ## Runs without backslashes -/

theorem Part.unescape_of_not_mem {t : Text} (h : '\\' ∉ t) : Part.unescape t = t := by
  induction t with
  | nil => rfl
  | cons c t ih =>
    rw [List.mem_cons, not_or] at h
    rw [unescape_cons (Ne.symm h.1), ih h.2]

theorem Compiled.backslashesAtEnd_of_not_mem {t : Text} (h : '\\' ∉ t) :
    backslashesAtEnd t = 0 := by
  induction t with
  | nil => rfl
  | cons c t ih =>
    rw [List.mem_cons, not_or] at h
    rw [backslashesAtEnd_plain (Ne.symm h.1), ih h.2]

namespace Segment

theorem not_mem_body_of_not_mem {s : Segment} (h : '\\' ∉ s.text) : '\\' ∉ s.body := by
  rw [body, List.mem_map]
  rintro ⟨c, hc, he⟩
  split at he
  · cases he
  · exact h (he ▸ hc)

theorem dangles_of_not_mem {s : Segment} (h : '\\' ∉ s.text) : s.dangles = false := by
  rw [dangles, Compiled.backslashesAtEnd_of_not_mem h]
  exact Bool.and_false _

theorem part_of_not_mem {s : Segment} (he : s.isExpr = false) (h : '\\' ∉ s.text) :
    s.part = .literal s.body := by
  rw [part, he, if_neg Bool.false_ne_true, Part.unescape_of_not_mem (not_mem_body_of_not_mem h)]

end Segment

namespace Document

/-! ## The values of the expressions -/

/-- The text of a document with values in place of its expressions, the first of which takes the one
at `place`. What is literal has closing parentheses for closing braces. -/
def filledFrom (values : List Filling) : Nat → Document → Text
  | _, [] => []
  | place, s :: d =>
    if s.isExpr then values[place]?.join.getD [] ++ filledFrom values (place + 1) d
    else s.body ++ filledFrom values place d

/-- The text of a document with the values in place of its expressions, in order. -/
def filled (d : Document) (values : List Filling) : Text := d.filledFrom values 0

theorem meaningAll_parts {d : Document} (h : ∀ s ∈ d, '\\' ∉ s.text) (values : List Filling)
    (place : Nat) : meaningAll values place (d.map Segment.part) = d.filledFrom values place := by
  induction d generalizing place with
  | nil => rfl
  | cons s d ih =>
    obtain ⟨hs, hd⟩ := List.forall_mem_cons.1 h
    rw [List.map_cons, meaningAll, filledFrom, ih hd]
    cases he : s.isExpr with
    | true => rw [Segment.part, he, if_pos rfl, if_pos rfl, meaning, Part.slots]; rfl
    | false => rw [Segment.part_of_not_mem he hs, if_neg Bool.false_ne_true, meaning]; rfl

/-- A group of runs is dropped if the value of one of its expressions is absent. -/
theorem lacks_parts (d : Document) (values : List Filling) (place : Nat) :
    lacks values place (d.map Segment.part) = true ↔
      ∃ k, k < d.countP Segment.isExpr ∧ values[place + k]? = some none := by
  induction d generalizing place with
  | nil => simp [lacks]
  | cons s d ih =>
    rw [List.map_cons, List.countP_cons, Segment.part]
    cases he : s.isExpr with
    | true =>
      rw [if_pos rfl, if_pos rfl, lacks, Bool.or_eq_true, beq_iff_eq, ih]
      constructor
      · rintro (h | ⟨k, hk, h⟩)
        · exact ⟨0, Nat.succ_pos _, h⟩
        · exact ⟨k + 1, Nat.succ_lt_succ hk, by rwa [Nat.add_assoc, Nat.add_comm 1] at h⟩
      · rintro ⟨_ | k, hk, h⟩
        · exact .inl h
        · exact .inr ⟨k, Nat.lt_of_succ_lt_succ hk, by rwa [Nat.add_assoc, Nat.add_comm 1]⟩
    | false =>
      rw [if_neg Bool.false_ne_true, if_neg Bool.false_ne_true, lacks, ih]
      · rfl
      · intro n hn
        cases hn

theorem lacks_parts_iff_mem {d : Document} {values : List Filling}
    (h : values.length = d.countP Segment.isExpr) :
    lacks values 0 (d.map Segment.part) = true ↔ none ∈ values := by
  rw [lacks_parts, List.mem_iff_getElem?]
  constructor
  · rintro ⟨k, -, hk⟩
    exact ⟨k, by rwa [Nat.zero_add] at hk⟩
  · rintro ⟨k, hk⟩
    refine ⟨k, ?_, by rwa [Nat.zero_add]⟩
    rw [← h]
    exact (List.getElem?_eq_some_iff.1 hk).1

/-! ## Rendering -/

/-- The one group that normal runs are read as takes all values or none. -/
theorem format_compiled {d : Document} (hnormal : d.isNormal = true) (h : ∀ s ∈ d, '\\' ∉ s.text)
    {values : List Filling} (hlength : values.length = d.countP Segment.isExpr) :
    Render.format d.compiled values =
      .ok (if none ∈ values then [] else d.filled values) := by
  by_cases hd : d = []
  · subst hd
    rw [List.length_eq_zero_iff.1 hlength]
    rfl
  · have hn := normalize_of_isNormal hnormal
    have hskeleton := skeleton_compiled (d := d) (by rwa [hn]) (by
      rw [hn]
      exact fun s hs => Segment.dangles_of_not_mem (h s hs))
    have hcount : (Part.slotsAll [.group (d.map Segment.part)]).length = values.length := by
      rw [Part.slotsAll, Part.slots, Part.slotsAll, List.append_nil, slotsAll_parts, hlength]
    have hparts := Render.parts_eq_meaning [.group (d.map Segment.part)] values 0
    rw [List.drop_zero] at hparts
    rw [hn] at hskeleton
    rw [Render.format_of_skeleton hskeleton, hcount, if_neg (Nat.lt_irrefl _), hparts]
    dsimp only
    rw [meaningAll, meaningAll, meaning, List.append_nil, meaningAll_parts h]
    simp only [lacks_parts_iff_mem hlength, filled]

end Document

namespace FoldedText

/-- **What is sent renders to the marked text.** Let the text with all folds open have no backslash.
Its document is this text in runs of one kind each, and given as many values as there are
expressions among them, the compiled form renders to nothing if a value is absent, and else to the
document with the values in place of the expressions, in order. -/
theorem compiled_filled (f : FoldedText) (h : '\\' ∉ f.expanded) {values : List Filling}
    (hlength : values.length = f.document.countP Segment.isExpr) :
    f.document.text = f.expanded ∧ f.document.isNormal = true ∧
      (none ∈ values → Render.format f.compiled values = .ok []) ∧
      (none ∉ values → Render.format f.compiled values = .ok (f.document.filled values)) := by
  have htext : f.document.text = f.expanded := Document.text_ofSpans _ _
  have hnormal : f.document.isNormal = true := Document.isNormal_ofSpans _ _
  have hruns : ∀ s ∈ f.document, '\\' ∉ s.text := fun s hs hc =>
    h (htext ▸ List.mem_flatMap.2 ⟨s, hs, hc⟩)
  have hformat := Document.format_compiled hnormal hruns hlength
  refine ⟨htext, hnormal, fun hnone => ?_, fun hall => ?_⟩
  · rw [compiled, hformat, if_pos hnone]
  · rw [compiled, hformat, if_neg hall]

/-- A fold and a letter are marked, and between them is a text that would close the literal, the
group and a slot. -/
theorem compiled_filled_fold :
    let f : FoldedText := ⟨"[*]\x7d+]\x7b[%s]b".toList, ["[x]".toList], [⟨0, 3⟩, ⟨11, 12⟩]⟩
    let given : List Filling := [some ['1'], some []]
    let fewer : List Filling := [some ['1'], none]
    '\\' ∉ f.expanded ∧ given.length = f.document.countP Segment.isExpr ∧
      fewer.length = f.document.countP Segment.isExpr ∧ none ∉ given ∧ none ∈ fewer ∧
      f.document.text = "[x]\x7d+]\x7b[%s]b".toList ∧
      Render.format f.compiled given = .ok "1)+]\x7b[%s]".toList ∧
      Render.format f.compiled fewer = .ok [] := by
  intro f given fewer
  have h : '\\' ∉ f.expanded := by decide
  have hgiven : given.length = f.document.countP Segment.isExpr := by decide
  have hfewer : fewer.length = f.document.countP Segment.isExpr := by decide
  have hall : none ∉ given := by decide
  have hnone : none ∈ fewer := by decide
  obtain ⟨htext, -, -, hfilled⟩ := compiled_filled f h hgiven
  obtain ⟨-, -, hdropped, -⟩ := compiled_filled f h hfewer
  have hresult : f.document.filled given = "1)+]\x7b[%s]".toList := by decide
  exact ⟨h, hgiven, hfewer, hall, hnone, htext, hresult ▸ hfilled hall, hdropped hnone⟩

end FoldedText

end CitationStudio
