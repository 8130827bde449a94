import CitationStudio.CommandLine.Run
import CitationStudio.Proofs.Fold.Marking
import CitationStudio.Proofs.Fold.Unfolded
import CitationStudio.Proofs.Marking.Readable
import CitationStudio.Proofs.Marking.Run

/-! # Three ways to mark a text

Stretches of a text are marked one by one on its document, or all at once by what they cover, or in
a session, on a buffer with offsets of its own. All three end with the same normal document, because
each of them makes expressions of the characters that some stretch holds and of no others. What some
stretch holds does not depend on the order of the stretches, nor on that of their ends. -/

namespace CitationStudio

theorem Span.ordered_eq (s : Span) : s.ordered = ⟨min s.start s.stop, max s.start s.stop⟩ := by
  unfold ordered
  split
  · rw [Int.min_eq_right (by omega), Int.max_eq_left (by omega)]
  · rw [Int.min_eq_left (by omega), Int.max_eq_right (by omega)]

/-! ## On documents -/

namespace Document

/-- One mark after the other, a character becomes an expression if one of them holds it. -/
theorem marked_markAll (d : Document) (spans : List Span) (i : Nat) :
    (d.markAll spans).marked[i]? = d.marked[i]?.map fun p =>
      if Span.Covers (spans.map Span.ordered) i then (p.1, Segment.expr) else p := by
  induction spans generalizing d with
  | nil => simp [markAll, Span.not_covers_nil]
  | cons s spans ih =>
    have hs : s.ordered.Holds i ↔ min s.start s.stop ≤ i ∧ i < max s.start s.stop := by
      rw [Span.ordered_eq]
      rfl
    rw [markAll, ih, marked_markKnown, Option.map_map, List.map_cons]
    congr 1
    funext p
    simp only [Function.comp_apply, Span.covers_cons, hs]
    by_cases hrest : Span.Covers (spans.map Span.ordered) i
    · simp only [hrest, or_true, if_true]
      split <;> rfl
    · simp only [hrest, or_false, if_false]

theorem isNormal_markAll {d : Document} (h : d.isNormal = true) (spans : List Span) :
    (d.markAll spans).isNormal = true := by
  induction spans generalizing d with
  | nil => exact h
  | cons s spans ih => exact ih (isNormal_markKnown ..)

theorem marked_ofText_getElem? (t : Text) (i : Nat) :
    (ofText t).normalize.marked[i]? = t[i]?.map fun c => (c, Segment.literal) := by
  rw [marked_normalize, ofText, marked_head, marked, List.flatMap_nil, List.append_nil,
    List.getElem?_map]

/-- Marks that are put on a document one by one may as well be put there all at once. -/
theorem ofMarks_eq_ofSpans (t : Text) (spans : List Span) :
    ofMarks t spans = ofSpans t (spans.map Span.ordered) := by
  refine eq_of_marked (isNormal_markAll (isNormal_normalize _) spans)
    (isNormal_ofSpans _ _) fun i => ?_
  rw [ofMarks, marked_markAll, marked_ofText_getElem?, marked_ofSpans_getElem?,
    Option.map_map]
  congr 1
  funext c
  simp only [Function.comp_apply, kindAt]
  split <;> rfl

theorem ofSpans_perm (t : Text) {spans spans' : List Span} (h : spans'.Perm spans) :
    ofSpans t spans' = ofSpans t spans :=
  ofSpans_congr t fun _ => exists_congr fun _ => and_congr_left fun _ => h.mem_iff

theorem markKnown_ordered (d : Document) (a b : Int) (kind : Text) :
    d.markKnown (min a b) (max a b) kind = d.markKnown a b kind := by
  have hmin : min (min a b) (max a b) = min a b := by omega
  have hmax : max (min a b) (max a b) = max a b := by omega
  rw [markKnown, markKnown, hmin, hmax]

end Document

/-! ## On a text without folds -/

namespace FoldedText

open Fold

/-- Nothing in the text is folded, and the marks lie in it. -/
structure Plain (t : Text) (f : FoldedText) : Prop where
  buffer : f.buffer = t
  pieces : f.pieces = []
  inBounds : f.InBounds

theorem plain_ofText (t : Text) : Plain t (ofText t) := ⟨rfl, rfl, fun _ hs => nomatch hs⟩

theorem document_ofText (t : Text) : (ofText t).document = (Document.ofText t).normalize := by
  refine Document.eq_of_marked (Document.isNormal_ofSpans _ _) (Document.isNormal_normalize _)
    fun i => ?_
  rw [Document.marked_ofText_getElem?, document, Document.marked_ofSpans_getElem?]
  exact congrArg (fun t : Text => t[i]?.map fun c => (c, Segment.literal)) (expand_nil t)

/-- Without tokens there is nothing to widen a selection to, and its offsets are those of the
document. -/
theorem Plain.expandedSelection {t : Text} {f : FoldedText} (h : Plain t f)
    (ht : Text.occursIn token t = false) {start stop : Int} (hs : f.Selectable start stop) :
    f.expandedSelection start stop = ⟨min start stop, max start stop⟩ := by
  have hnone : tokens f.buffer = [] := by
    rw [h.buffer]
    exact List.length_eq_zero_iff.1 (tokenCount_eq_zero_iff.2 ht)
  have hwidened : f.widened start stop = ⟨min start stop, max start stop⟩ := by
    rw [widened, snap, hnone]
    rfl
  have hexpanded : f.expanded = f.buffer := by rw [expanded, h.pieces, expand_nil]
  have hlies := hs.widened_liesIn
  rw [hwidened] at hlies
  rw [FoldedText.expandedSelection, hwidened, hexpanded, h.pieces, expandSpan_nil hlies]

theorem Plain.markExpr {t : Text} {f : FoldedText} (h : Plain t f)
    (ht : Text.occursIn token t = false) {start stop : Int} (hs : f.Selectable start stop) :
    ∃ f', f.markExpr start stop = .ok f' ∧ Plain t f' ∧
      f'.document = f.document.markKnown start stop Segment.expr := by
  obtain ⟨a, b, hsel⟩ := hs.selection
  obtain ⟨f', hf⟩ : ∃ f', f.markExpr start stop = .ok f' := by
    rw [FoldedText.markExpr, hsel]
    exact ⟨_, rfl⟩
  have hdocument := document_markExpr h.inBounds hf
  rw [h.expandedSelection ht hs] at hdocument
  have hsound := sound_markExpr hf h.inBounds
  obtain ⟨-, rfl⟩ := markExpr_inv hf
  exact ⟨_, hf, ⟨h.buffer, h.pieces, hsound.inBounds⟩,
    hdocument.trans (f.document.markKnown_ordered start stop Segment.expr)⟩

end FoldedText

/-! ## In a session -/

namespace Marking

open CommandLine (Options isInside markLines markRun spanStop?)

namespace Session

variable {σ : Type}

/-- Marks a stretch in a session, whatever is selected there. -/
def marking (s : Span) : Action σ := .toExpr (some (s.start, s.stop))

variable [Surface σ]

theorem run_marking {t : Text} (ht : Text.occursIn Fold.token t = false) {spans : List Span}
    (hspans : ∀ s ∈ spans, s.start ≠ s.stop ∧ isInside t.length s = true) {s : Session σ}
    (h : s.state.Plain t) :
    (s.run (spans.map marking)).state.document = s.state.document.markAll spans := by
  induction spans generalizing s with
  | nil => rfl
  | cons span spans ih =>
    obtain ⟨⟨hne, hin⟩, hspans⟩ := List.forall_mem_cons.1 hspans
    simp only [isInside, Bool.and_eq_true, decide_eq_true_eq] at hin
    have hselectable :
        s.state.Selectable (min span.start span.stop) (max span.start span.stop) := by
      rw [FoldedText.Selectable, h.buffer]
      omega
    obtain ⟨f', hf, hplain, hdocument⟩ := h.markExpr ht hselectable
    have hstate : (s.act (marking span)).state = f' := by
      simp only [act, marking, toExpr, onSelection, selected, hf]
    rw [Document.markKnown_ordered] at hdocument
    rw [Document.markAll, ← hdocument, ← hstate]
    exact ih hspans (hstate ▸ hplain)

end Session

/-- What the program says of the marks, if all of them lie in the text. -/
theorem markRun_inside {o : Options} {t : Text} {spans : List Span}
    (ho : o.marks = spans.map some) (hspans : ∀ s ∈ spans, isInside t.length s = true) :
    let d := Document.ofMarks t spans
    markRun o t = .finish (markLines o.json d
      ((List.range (d.countP Segment.isExpr)).map Compiled.defaultName)) := by
  have hgo : o.marks.findSome? (spanStop? t.length) = none := by
    rw [ho, List.findSome?_map, List.findSome?_eq_none_iff]
    intro s hs
    exact if_pos (hspans s hs)
  have hmarks : o.marks.filterMap id = spans := by
    rw [ho, List.filterMap_map]
    exact List.filterMap_some
  rw [markRun, hgo, hmarks]

variable {σ : Type} [Surface σ]

/-- **The three ways to mark agree.** Stretches that hold a character and lie in a text without
tokens make the same document, however they are put in order and whichever end of each comes first:
marked one by one, marked all at once, or marked in a session. It is the normal document in which
the characters that some stretch holds are expressions. So the compiled form is the same, and so are
the names of the slots and what the program says. -/
theorem marks_agree (surface : Option σ) {t : Text} {spans : List Span}
    (ht : Text.occursIn Fold.token t = false)
    (hspans : ∀ s ∈ spans, s.start ≠ s.stop ∧ isInside t.length s = true) :
    let d := Document.ofSpans t (spans.map Span.ordered)
    (d.isNormal = true ∧ ∀ i : Nat, d.marked[i]? =
      t[i]?.map fun c => (c, Document.kindAt (spans.map Span.ordered) i)) ∧
    ∀ spans', spans'.Perm spans →
      let s := (Session.new surface t).run (spans'.map Session.marking)
      Document.ofMarks t spans' = d ∧ Document.ofSpans t (spans'.map Span.ordered) = d ∧
        s.state.document = d ∧ s.state.compiled = d.compiled ∧
        s.names = (List.range (d.countP Segment.isExpr)).map Compiled.defaultName ∧
        ∀ o : Options, o.marks = spans'.map some →
          markRun o t = .finish (markLines o.json d s.names) := by
  intro d
  refine ⟨⟨Document.isNormal_ofSpans _ _, Document.marked_ofSpans_getElem? _ _⟩, ?_⟩
  intro spans' hperm s
  have hspans' : ∀ s ∈ spans', s.start ≠ s.stop ∧ isInside t.length s = true :=
    fun s hs => hspans s (hperm.mem_iff.1 hs)
  have hat : Document.ofSpans t (spans'.map Span.ordered) = d :=
    Document.ofSpans_perm t (hperm.map Span.ordered)
  have hmarks : Document.ofMarks t spans' = d := (Document.ofMarks_eq_ofSpans t spans').trans hat
  have hsession : s.state.document = d := by
    have hrun := Session.run_marking (s := Session.new surface t) ht hspans'
      (FoldedText.plain_ofText t)
    rw [← hmarks, Document.ofMarks, ← FoldedText.document_ofText]
    exact hrun
  have hnames : s.names = (List.range (d.countP Segment.isExpr)).map Compiled.defaultName := by
    rw [← hsession]
    rfl
  refine ⟨hmarks, hat, hsession, congrArg Document.compiled hsession, hnames, fun o ho => ?_⟩
  rw [markRun_inside ho fun s hs => (hspans' s hs).2, hmarks, hnames]

/-- Marks that overlap, one of them from the right, and one that stands alone, in another order. -/
theorem marks_agree_overlapping :
    let t := "Smith 2020, p. 3".toList
    let spans : List Span := [⟨0, 5⟩, ⟨10, 6⟩, ⟨8, 3⟩, ⟨15, 16⟩]
    let d : Document := [⟨Segment.expr, "Smith 2020".toList⟩, ⟨Segment.literal, ", p. ".toList⟩,
      ⟨Segment.expr, "3".toList⟩]
    let s := (Session.new (none : Option TextBox) t).run (spans.reverse.map Session.marking)
    (Text.occursIn Fold.token t = false ∧
      (∀ s ∈ spans, s.start ≠ s.stop ∧ isInside t.length s = true) ∧ spans.reverse.Perm spans) ∧
      Document.ofMarks t spans.reverse = d ∧ s.state.document = d ∧
      s.names = ["Arg1".toList, "Arg2".toList] ∧
      ∀ json, markRun { marks := spans.reverse.map some, json } t =
        .finish (markLines json d s.names) := by
  intro t spans d s
  have ht : Text.occursIn Fold.token t = false := by decide +kernel
  have hspans : ∀ s ∈ spans, s.start ≠ s.stop ∧ isInside t.length s = true := by decide +kernel
  have hperm : spans.reverse.Perm spans := spans.reverse_perm
  have hd : Document.ofSpans t (spans.map Span.ordered) = d := by decide +kernel
  obtain ⟨-, hagree⟩ := marks_agree (none : Option TextBox) ht hspans
  have hreverse := hagree spans.reverse hperm
  rw [hd] at hreverse
  obtain ⟨hmarks, -, hdocument, -, hnames, hrun⟩ := hreverse
  exact ⟨⟨ht, hspans, hperm⟩, hmarks, hdocument, hnames.trans (by decide +kernel),
    fun json => hrun { marks := spans.reverse.map some, json } rfl⟩

end Marking

end CitationStudio
