import CitationStudio.Tagging.Cut
import CitationStudio.Proofs.Template.Snapshots

/-! # What a cut makes of the parts

A cut that meets the end of its stretch takes a run of literal parts apart: what the stretch
covers of them becomes one part, what it leaves at either end stays literal, and the parts before
and after the run are kept. `Cutting` says this, and everything else about a cut follows. -/

namespace CitationStudio.Tagging

open Template (Item kept shown)

/-- A literal part for a text, if there is any text. -/
def remnant (t : Text) : List Item := if t.isEmpty then [] else [.new (.literal t)]

/-- Each entry with the offset at which it starts, the first one starting at `offset`. -/
def withOffsets (offset : Nat) : List Entry → List (Nat × Entry)
  | [] => []
  | e :: es => (offset, e) :: withOffsets (offset + e.part.display.length) es

/-- Does a stretch overlap an entry that starts at an offset? -/
def Overlapped (start stop : Nat) (p : Nat × Entry) : Prop :=
  p.1 < stop ∧ start < p.1 + p.2.part.display.length

theorem overlaps_iff {start stop offset : Nat} {e : Entry} :
    overlaps start stop offset (offset + e.part.display.length) = true ↔
      Overlapped start stop (offset, e) := by
  rw [overlaps, Bool.and_eq_true, decide_eq_true_iff, decide_eq_true_iff]
  rfl

/-- The stretch from `start` to before `stop` is cut out of entries, the first of which is at
`cursor`: `before`, `run` and `after` are the entries, of which the stretch overlaps the run,
`head`, `text` and `tail` what the run shows, and `part` is made of the text. -/
structure Cutting (sort : Text) (start stop cursor : Nat) (es : List Entry) (items : List Item)
    (before run after : List Entry) (head text tail : Text) (part : Part) : Prop where
  entries_eq : es = before ++ run ++ after
  literal : ∀ e ∈ run, e.part.isLiteral = true
  overlapped : ∀ p ∈ withOffsets (cursor + (shown before).length) run, Overlapped start stop p
  shown_run : shown run = head ++ text ++ tail
  made : makePart sort text = .ok part
  items_eq : items = kept before ++ (remnant head ++ .new part :: remnant tail) ++ kept after
  start_eq : cursor + (shown before).length + head.length = start
  stop_eq : start + text.length = stop

theorem remnant_drop (t : Text) (b : Nat) :
    (if b < t.length then [.new (.literal (t.drop b))] else []) = remnant (t.drop b) := by
  unfold remnant
  split
  · rw [if_neg (by simpa using ‹b < t.length›)]
  · rw [if_pos (by simpa using ‹¬ b < t.length›)]

theorem remnant_take {t : Text} {a : Nat} (h : a ≤ t.length) :
    (if 0 < a then [.new (.literal (t.take a))] else []) = remnant (t.take a) := by
  unfold remnant
  cases t with
  | nil => simp at h; simp [h]
  | cons c t => cases a <;> simp

theorem map_part_remnant (t : Text) : Part.displayAll ((remnant t).map Item.part) = t := by
  cases t with
  | nil => rfl
  | cons c t => simp [remnant, Item.part, Part.displayAll, Part.display]

theorem cutFrom_after {sort : Text} {start stop : Nat} :
    ∀ (es : List Entry) {cursor : Nat}, stop ≤ cursor →
      cutFrom sort start stop cursor none es = .ok (kept es, false)
  | [], _, _ => rfl
  | e :: es, cursor, h => by
    have ho : overlaps start stop cursor (cursor + e.part.display.length) = false := by
      simp only [overlaps, Bool.and_eq_false_iff, decide_eq_false_iff_not]
      exact .inl (by omega)
    have hle : stop ≤ cursor + e.part.display.length := Nat.le_add_right_of_le h
    simp only [cutFrom, ho, Bool.not_false, if_true, cutFrom_after es hle]
    rfl

/-- A part that the stretch does not overlap is kept. -/
theorem cutFrom_apart {sort : Text} {start stop cursor : Nat} {taken : Option Text} {e : Entry}
    {es : List Entry} {items : List Item}
    (ho : overlaps start stop cursor (cursor + e.part.display.length) = false)
    (h : cutFrom sort start stop cursor taken (e :: es) = .ok (items, true)) :
    ∃ rest, cutFrom sort start stop (cursor + e.part.display.length) taken es = .ok (rest, true) ∧
      items = .kept e :: rest := by
  simp only [cutFrom, ho, Bool.not_false, if_true] at h
  split at h
  · rename_i rest met hr
    cases h
    exact ⟨rest, hr, rfl⟩
  · cases h

/-- A part that the stretch overlaps is literal. Either the stretch goes on behind it, or it ends
in it and becomes a part. -/
theorem cutFrom_overlap {sort : Text} {start stop cursor : Nat} {taken : Option Text} {e : Entry}
    {es : List Entry} {items : List Item} {a b : Nat}
    (ho : overlaps start stop cursor (cursor + e.part.display.length) = true)
    (ha : max start cursor - cursor = a)
    (hb : min stop (cursor + e.part.display.length) - cursor = b)
    (h : cutFrom sort start stop cursor taken (e :: es) = .ok (items, true)) :
    e.part.isLiteral = true ∧ ∃ behind,
      items = (if taken.isNone && 0 < a then [.new (.literal (e.part.display.take a))] else []) ++
        behind ∧
      ((cursor + e.part.display.length < stop ∧
        cutFrom sort start stop (cursor + e.part.display.length)
          (some (taken.getD [] ++ (e.part.display.take b).drop a)) es = .ok (behind, true)) ∨
      (stop ≤ cursor + e.part.display.length ∧
        ∃ part, makePart sort (taken.getD [] ++ (e.part.display.take b).drop a) = .ok part ∧
          behind = .new part :: remnant (e.part.display.drop b) ++ kept es)) := by
  simp only [cutFrom, ho, ha, hb, Bool.not_true, Bool.false_eq_true, if_false] at h
  split at h
  · cases h
  · rename_i hlit
    refine ⟨by simpa using hlit, ?_⟩
    split at h
    · rename_i hl
      split at h
      · rename_i rest met hr
        cases h
        exact ⟨rest, rfl, .inl ⟨hl, hr⟩⟩
      · cases h
    · rename_i hl
      split at h
      · cases h
      · rename_i part hp
        rw [cutFrom_after es (Nat.le_of_not_lt hl)] at h
        cases h
        refine ⟨_, ?_, .inr ⟨Nat.le_of_not_lt hl, part, hp, rfl⟩⟩
        simp only [remnant_drop, List.append_assoc, List.cons_append]

/-! ## The whole cut -/

/-- Once the stretch has begun, its run goes on to the part in which it ends. -/
theorem cutFrom_taken {sort : Text} {start stop : Nat} :
    ∀ {es : List Entry} {cursor : Nat} {taken : Text} {items : List Item},
      start < cursor → cursor < stop →
      cutFrom sort start stop cursor (some taken) es = .ok (items, true) →
      ∃ run after text tail part, es = run ++ after ∧ (∀ e ∈ run, e.part.isLiteral = true) ∧
        (∀ p ∈ withOffsets cursor run, Overlapped start stop p) ∧ shown run = text ++ tail ∧
        makePart sort (taken ++ text) = .ok part ∧
        items = .new part :: remnant tail ++ kept after ∧ cursor + text.length = stop
  | [], _, _, _, _, _, h => by cases h
  | e :: es, cursor, taken, items, hs, hc, h => by
    have ho : overlaps start stop cursor (cursor + e.part.display.length) = true := by
      simp only [overlaps, Bool.and_eq_true, decide_eq_true_eq]
      omega
    obtain ⟨hlit, behind, rfl, ⟨hl, hr⟩ | ⟨hl, part, hp, rfl⟩⟩ :=
      cutFrom_overlap ho (by omega : _ = 0) rfl h
    · rw [show min stop (cursor + e.part.display.length) - cursor = e.part.display.length by omega,
        List.take_length, List.drop_zero, Option.getD_some] at hr
      obtain ⟨run, after, text, tail, part, rfl, hrun, hover, hsh, hp, rfl, hst⟩ :=
        cutFrom_taken (by omega) hl hr
      refine ⟨e :: run, after, e.part.display ++ text, tail, part, rfl, ?_, ?_, ?_, ?_, rfl, ?_⟩
      · exact List.forall_mem_cons.2 ⟨hlit, hrun⟩
      · exact List.forall_mem_cons.2 ⟨overlaps_iff.1 ho, hover⟩
      · rw [Template.shown_cons, hsh, List.append_assoc]
      · rw [← List.append_assoc]
        exact hp
      · rw [List.length_append]
        omega
    · rw [show min stop (cursor + e.part.display.length) - cursor = stop - cursor by omega,
        List.drop_zero, Option.getD_some] at hp
      refine ⟨[e], es, e.part.display.take (stop - cursor), e.part.display.drop (stop - cursor),
        part, rfl, by simpa using hlit, ?_, ?_, hp, ?_, ?_⟩
      · exact List.forall_mem_singleton.2 (overlaps_iff.1 ho)
      · rw [List.take_append_drop, Template.shown_singleton]
      · rw [show min stop (cursor + e.part.display.length) - cursor = stop - cursor by omega]
      · rw [List.length_take]
        omega

/-- **What a cut is.** A cut that meets the end of its stretch is a `Cutting`. -/
theorem cutFrom_cutting {sort : Text} {start stop : Nat} (hab : start < stop) :
    ∀ {es : List Entry} {cursor : Nat} {items : List Item}, cursor ≤ start →
      cutFrom sort start stop cursor none es = .ok (items, true) →
      ∃ before run after head text tail part,
        Cutting sort start stop cursor es items before run after head text tail part
  | [], _, _, _, h => by cases h
  | e :: es, cursor, items, hc, h => by
    cases ho : overlaps start stop cursor (cursor + e.part.display.length) with
    | false =>
      obtain ⟨rest, hr, rfl⟩ := cutFrom_apart ho h
      have hle : cursor + e.part.display.length ≤ start := by
        simp only [overlaps, Bool.and_eq_false_iff, decide_eq_false_iff_not] at ho
        omega
      obtain ⟨before, run, after, head, text, tail, part, hcut⟩ := cutFrom_cutting hab hle hr
      refine ⟨e :: before, run, after, head, text, tail, part, ?_, hcut.literal, ?_,
        hcut.shown_run, hcut.made, ?_, ?_, hcut.stop_eq⟩
      · rw [hcut.entries_eq]
        rfl
      · rw [Template.shown_cons, List.length_append, ← Nat.add_assoc]
        exact hcut.overlapped
      · rw [hcut.items_eq]
        rfl
      · rw [Template.shown_cons, List.length_append, ← hcut.start_eq]
        omega
    | true =>
      -- the run begins here: either the stretch ends in this part, or it goes on behind it
      have hov : cursor < stop ∧ start < cursor + e.part.display.length := by
        simpa only [overlaps, Bool.and_eq_true, decide_eq_true_eq] using ho
      have hhead := remnant_take (t := e.part.display) (a := start - cursor) (by omega)
      obtain ⟨hlit, behind, rfl, ⟨hl, hr⟩ | ⟨hl, part, hp, rfl⟩⟩ :=
        cutFrom_overlap ho (by omega : _ = start - cursor) rfl h
      · have hb : min stop (cursor + e.part.display.length) - cursor = e.part.display.length := by
          omega
        rw [hb, List.take_length, Option.getD_none, List.nil_append] at hr
        obtain ⟨run, after, text, tail, part, rfl, hrun, hover, hsh, hp, rfl, hst⟩ :=
          cutFrom_taken hov.2 hl hr
        refine ⟨[], e :: run, after, e.part.display.take (start - cursor),
          e.part.display.drop (start - cursor) ++ text, tail, part, rfl,
          List.forall_mem_cons.2 ⟨hlit, hrun⟩,
          List.forall_mem_cons.2 ⟨overlaps_iff.1 ho, hover⟩, ?_, hp, ?_, ?_, ?_⟩
        · rw [Template.shown_cons, hsh, ← List.append_assoc, ← List.append_assoc,
            List.take_append_drop]
        · simp only [Option.isNone_none, Bool.true_and, decide_eq_true_eq, hhead]
          simp [kept]
        · simp only [Template.shown_nil, List.length_nil, List.length_take]
          omega
        · simp only [List.length_append, List.length_drop]
          omega
      · rw [show min stop (cursor + e.part.display.length) - cursor = stop - cursor by omega,
          Option.getD_none, List.nil_append] at hp
        refine ⟨[], [e], es, e.part.display.take (start - cursor),
          (e.part.display.take (stop - cursor)).drop (start - cursor),
          e.part.display.drop (stop - cursor), part, rfl, by simpa using hlit,
          List.forall_mem_singleton.2 (overlaps_iff.1 ho), ?_, hp, ?_, ?_, ?_⟩
        · rw [Template.shown_singleton, Text.three_pieces _ (by omega)]
        · simp only [Option.isNone_none, Bool.true_and, decide_eq_true_eq, hhead]
          rw [show min stop (cursor + e.part.display.length) - cursor = stop - cursor by omega]
          simp [kept]
        · simp only [Template.shown_nil, List.length_nil, List.length_take]
          omega
        · simp only [List.length_drop, List.length_take]
          omega

theorem cut_cutting {sort : Text} {start stop : Nat} {es : List Entry} {items : List Item}
    (hab : start < stop) (h : cut sort start stop es = .ok (items, true)) :
    ∃ before run after head text tail part,
      Cutting sort start stop 0 es items before run after head text tail part :=
  cutFrom_cutting hab (Nat.zero_le _) h

/-! ## What follows -/

theorem makePart_eq_ok {sort text : Text} {part : Part} (h : makePart sort text = .ok part) :
    part = .literal text ∨ part = .slot text := by
  unfold makePart at h
  split at h
  · cases h; exact .inl rfl
  · split at h
    · cases h; exact .inr rfl
    · cases h

theorem makePart_display {sort text : Text} {part : Part} (h : makePart sort text = .ok part) :
    part.display = text := by
  rcases makePart_eq_ok h with rfl | rfl <;> rfl

theorem makePart_solid {sort text : Text} {part : Part} (h : makePart sort text = .ok part) :
    part.solid = true := by
  rcases makePart_eq_ok h with rfl | rfl <;> rfl

theorem mem_remnant {t : Text} {i : Item} (h : i ∈ remnant t) : i = .new (.literal t) := by
  unfold remnant at h
  split at h
  · cases h
  · simpa using h

namespace Cutting

variable {sort head text tail : Text} {start stop cursor : Nat} {items : List Item} {part : Part}
  {es before run after : List Entry}
  (h : Cutting sort start stop cursor es items before run after head text tail part)

include h

theorem fresh : Template.Fresh items := .inr ⟨part, by rw [h.items_eq]; simp⟩

theorem mem_items {i : Item} (hi : i ∈ items) :
    (∃ e ∈ es, i = .kept e) ∨ ∃ p, i = .new p ∧ p.solid = true := by
  simp only [h.items_eq, h.entries_eq, kept, List.mem_append, List.mem_cons, List.mem_map] at hi ⊢
  rcases hi with (⟨e, he, rfl⟩ | hi | rfl | hi) | ⟨e, he, rfl⟩
  · exact .inl ⟨e, .inl (.inl he), rfl⟩
  · exact .inr ⟨_, mem_remnant hi, rfl⟩
  · exact .inr ⟨part, rfl, makePart_solid h.made⟩
  · exact .inr ⟨_, mem_remnant hi, rfl⟩
  · exact .inl ⟨e, .inr he, rfl⟩

theorem displayAll : Part.displayAll (items.map Item.part) = shown es := by
  rw [h.items_eq, h.entries_eq, Template.shown_append, Template.shown_append, h.shown_run]
  simp only [List.map_append, List.map_cons, Part.displayAll_append, Part.displayAll,
    Template.kept_parts, map_part_remnant, Item.part, makePart_display h.made, shown,
    List.append_assoc]

theorem solidAll (hs : Part.solidAll (es.map Entry.part) = true) :
    Part.solidAll (items.map Item.part) = true := by
  rw [Part.solidAll_iff] at hs ⊢
  intro p hp
  obtain ⟨i, hi, rfl⟩ := List.mem_map.1 hp
  rcases h.mem_items hi with ⟨e, he, rfl⟩ | ⟨q, rfl, hq⟩
  · exact hs _ (List.mem_map_of_mem he)
  · exact hq

end Cutting

end CitationStudio.Tagging
