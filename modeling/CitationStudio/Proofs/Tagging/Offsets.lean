import CitationStudio.Proofs.Tagging.Rendered

/-! # Offsets mean the same in the input and in the parts

A selection is made in the text that was typed and carried out on the parts. Since the parts show
the input in every state that a session can reach or go back to (`Coherent`), an offset finds the
same character in both (`HasAt`), and the part that a conversion makes is where the selected stretch
was, with what stood before and after it on either side. -/

namespace CitationStudio

/-- One of the parts has the character, at the offset from the start of all that they show. -/
def Part.HasAt (ps : List Part) (offset : Nat) (c : Char) : Prop :=
  ∃ before p after place, ps = before ++ p :: after ∧ p.display[place]? = some c ∧
    (Part.displayAll before).length + place = offset

theorem Part.hasAt_cons {p : Part} {ps : List Part} {offset : Nat} {c : Char} :
    HasAt (p :: ps) offset c ↔ p.display[offset]? = some c ∨
      ∃ rest, p.display.length + rest = offset ∧ HasAt ps rest c := by
  constructor
  · rintro ⟨before, q, after, place, hps, hc, hoffset⟩
    cases before with
    | nil =>
      obtain ⟨rfl, rfl⟩ := List.cons.inj hps
      rw [displayAll, List.length_nil, Nat.zero_add] at hoffset
      exact .inl (hoffset ▸ hc)
    | cons first before =>
      obtain ⟨rfl, rfl⟩ := List.cons.inj hps
      rw [displayAll, List.length_append, Nat.add_assoc] at hoffset
      exact .inr ⟨_, hoffset, before, q, after, place, rfl, hc, rfl⟩
  · rintro (hc | ⟨rest, hrest, before, q, after, place, rfl, hc, rfl⟩)
    · exact ⟨[], p, ps, offset, rfl, hc, Nat.zero_add _⟩
    · refine ⟨p :: before, q, after, place, rfl, hc, ?_⟩
      rw [displayAll, List.length_append, Nat.add_assoc, hrest]

/-- A character is at an offset of what parts show just if one of the parts has it there. -/
theorem Part.displayAll_getElem?_iff {ps : List Part} {offset : Nat} {c : Char} :
    (displayAll ps)[offset]? = some c ↔ HasAt ps offset c := by
  induction ps generalizing offset with
  | nil =>
    refine iff_of_false (fun h => nomatch h) ?_
    rintro ⟨before, p, after, place, hps, -⟩
    cases before <;> cases hps
  | cons p ps ih =>
    rw [displayAll, hasAt_cons, List.getElem?_append]
    split
    · rename_i hlt
      exact ⟨.inl, fun h => h.resolve_right fun ⟨rest, hrest, _⟩ => by omega⟩
    · rename_i hle
      rw [ih]
      constructor
      · exact fun h => .inr ⟨_, by omega, h⟩
      · rintro (h | ⟨rest, rfl, h⟩)
        · rw [List.getElem?_eq_none (by omega)] at h
          cases h
        · rwa [Nat.add_sub_cancel_left]

namespace Tagging

/-- The part that a cut makes stands where the stretch was. -/
theorem Cutting.placed {sort head text tail : Text} {start stop : Nat} {part : Part}
    {items : List Template.Item} {es before run after : List Entry}
    (h : Cutting sort start stop 0 es items before run after head text tail part) :
    ∃ ps qs, items.map Template.Item.part = ps ++ part :: qs ∧
      Part.displayAll ps = (Template.shown es).take start ∧
      part.display = ((Template.shown es).take stop).drop start ∧
      Part.displayAll qs = (Template.shown es).drop stop := by
  have hshown : Template.shown es =
      (Template.shown before ++ head) ++ (text ++ (tail ++ Template.shown after)) := by
    rw [h.entries_eq, Template.shown_append, Template.shown_append, h.shown_run]
    simp only [List.append_assoc]
  have hstart : (Template.shown before ++ head).length = start := by
    rw [List.length_append, ← h.start_eq, Nat.zero_add]
  have hstop : ((Template.shown before ++ head) ++ text).length = stop := by
    rw [List.length_append, hstart, h.stop_eq]
  refine ⟨(Template.kept before ++ remnant head).map Template.Item.part,
    (remnant tail ++ Template.kept after).map Template.Item.part, ?_, ?_, ?_, ?_⟩
  · rw [h.items_eq]
    simp only [List.map_append, List.map_cons, List.append_assoc, List.cons_append,
      Template.Item.part]
  · rw [hshown, List.take_left' hstart, List.map_append, Part.displayAll_append,
      Template.kept_parts, map_part_remnant]
    rfl
  · rw [hshown, ← List.append_assoc, List.take_left' hstop, List.drop_left' hstart,
      makePart_display h.made]
  · rw [hshown, ← List.append_assoc, List.drop_left' hstop, List.map_append,
      Part.displayAll_append, Template.kept_parts, map_part_remnant]
    rfl

namespace Session

variable {σ : Type}

/-- A conversion puts one part in the place of the stretch between its offsets. -/
theorem convertAt_placed {s s' : Session σ} {sort : Text} {a b : Int}
    (hs : Coherent s.template s.input) (h : s.convertAt sort a b = .ok (s', true)) :
    s'.input = s.input ∧ ∃ before part after, s'.template.parts = before ++ part :: after ∧
      Part.displayAll before = s.input.take (min a b).toNat ∧
      part.display = (s.input.take (max a b).toNat).drop (min a b).toNat ∧
      Part.displayAll after = s.input.drop (max a b).toNat := by
  obtain ⟨hdone, -⟩ | ⟨-, items, hlt, -, hcut, rfl⟩ := convertAt_cases h
  · cases hdone
  obtain ⟨before, run, after, head, text, tail, part, cutting⟩ := cut_cutting hlt hcut
  obtain ⟨hstamped, ⟨-, hnone, -⟩ | hshows⟩ := hs
  · -- there are no parts, so nothing can be cut
    rw [hnone] at hcut
    cases hcut
  · have hinput : Template.shown s.template.entries = s.input :=
      (hshows s.template.entries (List.mem_cons_self ..)).1
    obtain ⟨ps, qs, hitems, hplaced⟩ := cutting.placed
    rw [hinput] at hplaced
    exact ⟨rfl, ps, part, qs,
      (Template.parts_replace hstamped cutting.fresh true false).trans hitems, hplaced⟩

variable [Surface σ]

/-- **An offset means the same in the input and in the parts.** Whatever an author does: nothing
visible was typed and there are no parts and no history, or the parts, the present ones and those of
every recorded state, show the input, so that a character is at an offset of the input just if one
of the parts has it there. A conversion makes one part that shows the selected stretch of the input,
between parts that show what is before it and after it. -/
theorem run_offsets (surface : Option σ) (feed : Feed) (limit : Option Int)
    (actions : List (Action σ)) :
    let s := (Session.new surface feed limit).run actions
    ((s.input.isBlank = true ∧ s.template.parts = [] ∧ s.template.history = []) ∨
      ∀ es ∈ s.template.snapshots, Part.displayAll (es.map Entry.part) = s.input ∧
        ∀ offset c, s.input[offset]? = some c ↔ Part.HasAt (es.map Entry.part) offset c) ∧
    ∀ sort a b s', s.convertAt sort a b = .ok (s', true) → s'.input = s.input ∧
      ∃ before part after, s'.template.parts = before ++ part :: after ∧
        Part.displayAll before = s.input.take (min a b).toNat ∧
        part.display = (s.input.take (max a b).toNat).drop (min a b).toNat ∧
        Part.displayAll after = s.input.drop (max a b).toNat := by
  intro s
  have hs : Coherent s.template s.input :=
    run_coherent actions (s := Session.new surface feed limit) (new_coherent limit)
  refine ⟨?_, fun sort a b s' h => convertAt_placed hs h⟩
  rcases hs.agrees with ⟨hblank, hentries, hhistory⟩ | hshows
  · exact .inl ⟨hblank, by rw [Template.parts, hentries]; rfl, hhistory⟩
  · refine .inr fun es hes => ?_
    have hshown := (hshows es hes).1
    exact ⟨hshown, fun offset c => by rw [← hshown]; exact Part.displayAll_getElem?_iff⟩

/-- A slot behind a literal, a group of the two parts that follow, and a selection, from the right,
of what stands before them. -/
theorem run_offsets_wrapped :
    let actions : List (Action TextBox) :=
      [.type "ab cd e".toList, .convert "variable".toList (some (3, 5)), .pick [1, 2], .wrap]
    let s := (Session.new none Feed.empty none).run actions
    s.template.snapshots.length = 3 ∧
      (∀ es ∈ s.template.snapshots, Part.displayAll (es.map Entry.part) = "ab cd e".toList) ∧
      Part.HasAt s.template.parts 4 'd' ∧
      ∃ s', s.convertAt "variable".toList 2 0 = .ok (s', true) ∧
        ∃ before part after, s'.template.parts = before ++ part :: after ∧
          Part.displayAll before = [] ∧ part.display = "ab".toList ∧
          Part.displayAll after = " cd e".toList := by
  intro actions s
  obtain ⟨hshows, hplaced⟩ := run_offsets none Feed.empty none actions
  have hinput : s.input = "ab cd e".toList := by decide +kernel
  obtain ⟨hblank, -⟩ | hshows := hshows
  · exact absurd hblank (by decide +kernel)
  obtain ⟨s', hs'⟩ : ∃ s', s.convertAt "variable".toList 2 0 = .ok (s', true) := ⟨_, by rfl⟩
  obtain ⟨-, before, part, after, hparts, hbefore, hpart, hafter⟩ := hplaced _ 2 0 s' hs'
  refine ⟨by decide +kernel, fun es hes => (hshows es hes).1.trans hinput, ?_, s', hs', before,
    part, after, hparts, hbefore, hpart.trans ?_, hafter.trans ?_⟩
  · exact ((hshows s.template.entries (List.mem_cons_self ..)).2 4 'd').1 (by decide +kernel)
  · change (s.input.take 2).drop 0 = _
    rw [hinput]
    rfl
  · change s.input.drop 2 = _
    rw [hinput]
    rfl

end Session

end Tagging

end CitationStudio
