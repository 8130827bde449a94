import CitationStudio.Document.Basic

/-! # Documents as marked characters

A document that is put together character by character is normal, and is known by its characters
and their kinds. So two documents of one text are the same if every character has the same kind
in both. -/

namespace CitationStudio.Document

@[simp] theorem text_nil : text [] = [] := rfl

@[simp] theorem text_head (s : Segment) (d : Document) : text (s :: d) = s.text ++ d.text :=
  List.flatMap_cons

@[simp] theorem text_append (d e : Document) : text (d ++ e) = d.text ++ e.text :=
  List.flatMap_append

theorem marked_head (s : Segment) (d : Document) :
    marked (s :: d) = s.text.map (fun c => (c, s.kind)) ++ d.marked :=
  List.flatMap_cons

@[simp] theorem marked_append (d e : Document) : marked (d ++ e) = d.marked ++ e.marked :=
  List.flatMap_append

@[simp] theorem length_marked (d : Document) : d.marked.length = d.text.length := by
  rw [← map_fst_marked, List.length_map]

/-- The normal document of marked characters. -/
def ofMarked : List (Char × Text) → Document
  | [] => []
  | (c, kind) :: l => cons ⟨kind, [c]⟩ (ofMarked l)

@[simp] theorem marked_ofMarked (l : List (Char × Text)) : (ofMarked l).marked = l := by
  induction l with
  | nil => rfl
  | cons p l ih => rw [ofMarked, marked_cons, ih]; rfl

theorem isNormal_ofMarked (l : List (Char × Text)) : (ofMarked l).isNormal = true := by
  induction l with
  | nil => rfl
  | cons p l ih => exact isNormal_cons _ ih

theorem isNormal_tail {s : Segment} {d : Document} (h : isNormal (s :: d) = true) :
    isNormal d = true := by
  cases d with
  | nil => rfl
  | cons s' d =>
    rw [isNormal, Bool.and_eq_true] at h
    exact h.2

theorem normalize_of_isNormal {d : Document} (h : d.isNormal = true) : d.normalize = d := by
  induction d with
  | nil => rfl
  | cons s d ih =>
    have hd : normalize (s :: d) = cons s d := congrArg (cons s) (ih (isNormal_tail h))
    rw [hd]
    cases d with
    | nil =>
      rw [isNormal, Bool.not_eq_true'] at h
      rw [cons, h, if_neg Bool.false_ne_true]
    | cons s' d =>
      simp only [isNormal, Bool.and_eq_true, Bool.not_eq_true', bne_iff_ne] at h
      rw [cons, h.1.1, if_neg Bool.false_ne_true, if_neg h.1.2]

theorem ofMarked_inj {l l' : List (Char × Text)} : ofMarked l = ofMarked l' ↔ l = l' := by
  constructor
  · intro h
    rw [← marked_ofMarked l, h, marked_ofMarked]
  · intro h
    rw [h]

/-- Characters of one kind can be put before a document one by one. -/
theorem cons_char (c : Char) (kind t : Text) (d : Document) :
    cons ⟨kind, [c]⟩ (cons ⟨kind, t⟩ d) = cons ⟨kind, c :: t⟩ d := by
  cases d with
  | nil => cases t <;> simp [cons]
  | cons s d =>
    cases t with
    | nil => simp [cons]
    | cons c' t => by_cases h : kind = s.kind <;> simp [cons, h]

theorem ofMarked_run (kind t : Text) (l : List (Char × Text)) :
    ofMarked (t.map (fun c => (c, kind)) ++ l) = cons ⟨kind, t⟩ (ofMarked l) := by
  induction t with
  | nil => cases h : ofMarked l <;> simp [cons, h]
  | cons c t ih => rw [List.map_cons, List.cons_append, ofMarked, ih, cons_char]

/-- A document is made normal by being put together again from its characters. -/
theorem ofMarked_marked (d : Document) : ofMarked d.marked = d.normalize := by
  induction d with
  | nil => rfl
  | cons s d ih =>
    rw [marked_head, ofMarked_run, ih]
    rfl

/-- A normal document is known by its characters and their kinds. -/
theorem eq_of_marked {d d' : Document} (h : d.isNormal = true) (h' : d'.isNormal = true)
    (hm : ∀ i : Nat, d.marked[i]? = d'.marked[i]?) : d = d' := by
  rw [← normalize_of_isNormal h, ← normalize_of_isNormal h', ← ofMarked_marked, ← ofMarked_marked,
    List.ext_getElem? hm]

/-- The kind of the character at an offset. -/
def kind? (d : Document) (i : Nat) : Option Text := d.marked[i]?.map Prod.snd

/-- A normal document is known by its text and the kinds of its characters. -/
theorem eq_of_kinds {d d' : Document} (h : d.isNormal = true) (h' : d'.isNormal = true)
    (htext : d.text = d'.text) (hkind : ∀ i, d.kind? i = d'.kind? i) : d = d' := by
  refine eq_of_marked h h' fun i => ?_
  have hchar : d.marked[i]?.map Prod.fst = d'.marked[i]?.map Prod.fst := by
    rw [← List.getElem?_map, ← List.getElem?_map, map_fst_marked, map_fst_marked, htext]
  have hkind := hkind i
  simp only [kind?] at hkind
  cases hp : d.marked[i]? with
  | none =>
    rw [hp, Option.map_none, eq_comm, Option.map_eq_none_iff] at hchar
    rw [hchar]
  | some p =>
    rw [hp, Option.map_some, eq_comm, Option.map_eq_some_iff] at hchar hkind
    obtain ⟨q, hq, hfst⟩ := hchar
    obtain ⟨q', hq', hsnd⟩ := hkind
    obtain rfl : q = q' := Option.some.inj (hq.symm.trans hq')
    rw [hq, Prod.ext hfst hsnd]

def kinds (spans : List Span) (offsets : List Nat) : List Text :=
  offsets.map fun i : Nat => kindAt spans i

theorem kinds_append (spans : List Span) (vs ws : List Nat) :
    kinds spans (vs ++ ws) = kinds spans vs ++ kinds spans ws := List.map_append

@[simp] theorem length_kinds (spans : List Span) (ws : List Nat) :
    (kinds spans ws).length = ws.length := List.length_map _

theorem zip_replicate (t kind : Text) :
    t.zip (List.replicate t.length kind) = t.map fun c => (c, kind) := by
  induction t with
  | nil => rfl
  | cons c t ih => rw [List.length_cons, List.replicate_succ, List.zip_cons_cons, ih, List.map_cons]

theorem ofSpansFrom_eq (spans : List Span) (offset : Nat) (t : Text) :
    ofSpansFrom spans offset t = ofMarked (t.zip (kinds spans (List.range' offset t.length))) := by
  induction t generalizing offset with
  | nil => rfl
  | cons c t ih =>
    have hn : ofSpansFrom spans (↑offset + 1) t =
        ofMarked (t.zip (kinds spans (List.range' (offset + 1) t.length))) := ih (offset + 1)
    rw [ofSpansFrom, hn]
    rfl

theorem ofSpans_eq (t : Text) (spans : List Span) :
    ofSpans t spans = ofMarked (t.zip (kinds spans (List.range t.length))) := by
  rw [List.range_eq_range']
  exact ofSpansFrom_eq spans 0 t

theorem isNormal_ofSpans (t : Text) (spans : List Span) : (ofSpans t spans).isNormal = true := by
  rw [ofSpans_eq]
  exact isNormal_ofMarked _

theorem text_ofSpans (t : Text) (spans : List Span) : (ofSpans t spans).text = t := by
  rw [ofSpans_eq, ← map_fst_marked, marked_ofMarked, List.map_fst_zip]
  simp [kinds]

theorem marked_ofSpans_getElem? (t : Text) (spans : List Span) (i : Nat) :
    (ofSpans t spans).marked[i]? = t[i]?.map fun c => (c, kindAt spans i) := by
  rw [ofSpans_eq, marked_ofMarked, List.zip, List.getElem?_zipWith, kinds, List.getElem?_map]
  cases hc : t[i]? with
  | none => rfl
  | some c =>
    obtain ⟨hlt, -⟩ := List.getElem?_eq_some_iff.1 hc
    rw [List.getElem?_range hlt]
    rfl

theorem zip_inj {t : Text} {ks ks' : List Text} (h : ks.length = t.length)
    (h' : ks'.length = t.length) : t.zip ks = t.zip ks' ↔ ks = ks' := by
  constructor
  · intro hz
    rw [← List.map_snd_zip (Nat.le_of_eq h), hz, List.map_snd_zip (Nat.le_of_eq h')]
  · intro hk
    rw [hk]

theorem expr_ne_literal : Segment.expr ≠ Segment.literal := by decide

theorem kindAt_eq_expr_iff {spans : List Span} {i : Int} :
    kindAt spans i = Segment.expr ↔ Span.Covers spans i := by
  unfold kindAt
  split
  · rename_i h
    exact iff_of_true rfl h
  · rename_i h
    exact iff_of_false expr_ne_literal.symm h

theorem kindAt_eq_iff {spans spans' : List Span} {i j : Int} :
    kindAt spans i = kindAt spans' j ↔ (Span.Covers spans i ↔ Span.Covers spans' j) := by
  unfold kindAt
  by_cases h : Span.Covers spans i
  · by_cases h' : Span.Covers spans' j
    · rw [if_pos h, if_pos h']
      exact iff_of_true rfl (iff_of_true h h')
    · rw [if_pos h, if_neg h']
      exact iff_of_false expr_ne_literal fun hi => h' (hi.1 h)
  · by_cases h' : Span.Covers spans' j
    · rw [if_neg h, if_pos h']
      exact iff_of_false expr_ne_literal.symm fun hi => h (hi.2 h')
    · rw [if_neg h, if_neg h']
      exact iff_of_true rfl (iff_of_false h h')

/-- The spans matter to a document by what they cover. -/
theorem ofSpans_congr (t : Text) {ss ss' : List Span}
    (h : ∀ i, Span.Covers ss i ↔ Span.Covers ss' i) : ofSpans t ss = ofSpans t ss' := by
  have hk : kinds ss (List.range t.length) = kinds ss' (List.range t.length) :=
    List.map_congr_left fun i _ => kindAt_eq_iff.2 (h i)
  rw [ofSpans_eq, ofSpans_eq, hk]

end CitationStudio.Document
