import Mathlib.Data.List.Chain
import CitationStudio.Proofs.Document.Marked

/-! # The normal form of a document

In a normal document a segment goes as far as its kind does, so its segments can be read off its
characters. Whatever segments a document is made of, there is one normal document with the same
characters of the same kinds; making a document normal gives that one, and putting a text together
under spans does too. -/

namespace CitationStudio.Document

/-- No segment is empty, and no two neighbours are of one kind. -/
structure Normal (d : Document) : Prop where
  visible : ∀ s ∈ d, s.text ≠ []
  apart : d.IsChain fun s s' => s.kind ≠ s'.kind

theorem normal_cons_cons {s s' : Segment} {d : Document} :
    Normal (s :: s' :: d) ↔ s.text ≠ [] ∧ s.kind ≠ s'.kind ∧ Normal (s' :: d) := by
  constructor
  · intro h
    obtain ⟨hs, hd⟩ := List.forall_mem_cons.1 h.visible
    obtain ⟨hkind, hapart⟩ := List.isChain_cons_cons.1 h.apart
    exact ⟨hs, hkind, hd, hapart⟩
  · intro ⟨hs, hkind, h⟩
    exact ⟨List.forall_mem_cons.2 ⟨hs, h.visible⟩, List.isChain_cons_cons.2 ⟨hkind, h.apart⟩⟩

/-- The check for normal documents finds them all, and no others. -/
theorem isNormal_iff (d : Document) : d.isNormal = true ↔ d.Normal := by
  fun_induction isNormal d with
  | case1 => exact iff_of_true rfl ⟨by simp, .nil⟩
  | case2 s =>
    rw [Bool.not_eq_true', List.isEmpty_eq_false_iff]
    constructor
    · intro hs
      exact ⟨by simpa using hs, .singleton s⟩
    · intro h
      exact h.visible s List.mem_cons_self
  | case3 s s' d ih =>
    rw [normal_cons_cons, Bool.and_eq_true, Bool.and_eq_true, ih, Bool.not_eq_true',
      List.isEmpty_eq_false_iff, bne_iff_ne, and_assoc]

/-- A document is made into the one normal document with the same marked characters. -/
theorem normalize_eq_iff {d e : Document} :
    d.normalize = e ↔ e.isNormal = true ∧ e.marked = d.marked := by
  constructor
  · intro h
    subst h
    exact ⟨isNormal_normalize d, marked_normalize d⟩
  · intro ⟨hnormal, hmarked⟩
    calc
      d.normalize = ofMarked d.marked := (ofMarked_marked d).symm
      _ = ofMarked e.marked := by rw [hmarked]
      _ = e.normalize := ofMarked_marked e
      _ = e := normalize_of_isNormal hnormal

theorem normalize_eq_self_iff {d : Document} : d.normalize = d ↔ d.isNormal = true := by
  rw [normalize_eq_iff, and_iff_left rfl]

theorem normalize_eq_normalize_iff {d e : Document} :
    d.normalize = e.normalize ↔ d.marked = e.marked := by
  rw [normalize_eq_iff, marked_normalize, and_iff_right (isNormal_normalize e), eq_comm]

theorem marked_ofSpans (t : Text) (spans : List Span) :
    (ofSpans t spans).marked = t.mapIdx fun i c => (c, kindAt spans i) := by
  refine List.ext_getElem? fun i => ?_
  rw [marked_ofSpans_getElem?, List.getElem?_mapIdx]

theorem ofSpans_eq_iff {t : Text} {spans : List Span} {d : Document} :
    ofSpans t spans = d ↔
      d.isNormal = true ∧ d.marked = t.mapIdx fun i c => (c, kindAt spans i) := by
  rw [← normalize_of_isNormal (isNormal_ofSpans t spans), normalize_eq_iff, marked_ofSpans]

/-- **Making a document normal computes a canonical form.** It gives the one normal document with
the same characters of the same kinds in the same order; it leaves the normal documents, and only
them, as they are; and it makes two documents the same exactly if their characters and the kinds of
these are the same. Putting a text together under spans gives the one normal document in which the
characters are of the kinds that the spans give them. A document is normal if no segment is empty
and no two neighbours are of one kind. -/
theorem normalize_canonical (d : Document) :
    (d.isNormal = true ↔ d.Normal) ∧
      (∀ e : Document, d.normalize = e ↔ e.isNormal = true ∧ e.marked = d.marked) ∧
      (d.normalize = d ↔ d.isNormal = true) ∧
      (∀ e : Document, d.normalize = e.normalize ↔ d.marked = e.marked) ∧
      ∀ t spans, ofSpans t spans = d ↔
        d.isNormal = true ∧ d.marked = t.mapIdx fun i c => (c, kindAt spans i) :=
  ⟨isNormal_iff d, fun _ => normalize_eq_iff, normalize_eq_self_iff,
    fun _ => normalize_eq_normalize_iff, fun _ _ => ofSpans_eq_iff⟩

end CitationStudio.Document
