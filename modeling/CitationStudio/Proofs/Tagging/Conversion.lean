import CitationStudio.Proofs.Tagging.Offsets

/-! # When a selection becomes a part

A conversion goes through the parts once and is refused as soon as its stretch overlaps one that is
not literal. If it overlaps none and ends within what the parts show, its end is met, and nothing
but an unknown sort can stop it. Since the parts of a session show its input (`Coherent`), a
selection within the input ends there, so it is never refused for overlapping nothing. -/

namespace CitationStudio.Tagging

open Template (Item kept shown)

/-! ## Offsets of entries -/

theorem withOffsets_append (offset : Nat) (es fs : List Entry) :
    withOffsets offset (es ++ fs) =
      withOffsets offset es ++ withOffsets (offset + (shown es).length) fs := by
  induction es generalizing offset with
  | nil => rfl
  | cons e es ih =>
    rw [List.cons_append, withOffsets, ih, withOffsets, Template.shown_cons, List.length_append,
      Nat.add_assoc, List.cons_append]

theorem within_withOffsets {offset : Nat} {es : List Entry} {p : Nat × Entry}
    (h : p ∈ withOffsets offset es) :
    offset ≤ p.1 ∧ p.1 + p.2.part.display.length ≤ offset + (shown es).length := by
  induction es generalizing offset with
  | nil => cases h
  | cons e es ih =>
    rw [Template.shown_cons, List.length_append]
    rcases List.mem_cons.1 h with rfl | h
    · exact ⟨Nat.le_refl _, by dsimp only; omega⟩
    · obtain ⟨hle, hend⟩ := ih h
      omega

theorem mem_of_withOffsets {offset : Nat} {es : List Entry} {p : Nat × Entry}
    (h : p ∈ withOffsets offset es) : p.2 ∈ es := by
  induction es generalizing offset with
  | nil => cases h
  | cons e es ih =>
    rcases List.mem_cons.1 h with rfl | h
    · exact List.mem_cons_self
    · exact List.mem_cons_of_mem e (ih h)

/-! ## When a cut is made -/

/-- The stretch overlaps literal parts only, the first of the entries being at `cursor`. -/
def LiteralAlong (start stop cursor : Nat) (es : List Entry) : Prop :=
  ∀ p ∈ withOffsets cursor es, Overlapped start stop p → p.2.part.isLiteral = true

theorem LiteralAlong.tail {start stop cursor : Nat} {e : Entry} {es : List Entry}
    (h : LiteralAlong start stop cursor (e :: es)) :
    LiteralAlong start stop (cursor + e.part.display.length) es :=
  fun p hp => h p (List.mem_cons_of_mem _ hp)

/-- A stretch that overlaps literal parts only and ends within them is cut out. -/
theorem cutFrom_ok {sort : Text} (hsort : ∀ t, ∃ part, makePart sort t = .ok part)
    {start stop : Nat} (hab : start < stop) {es : List Entry} {cursor : Nat} (taken : Option Text)
    (hl : LiteralAlong start stop cursor es) (hc : cursor < stop)
    (hstop : stop ≤ cursor + (shown es).length) :
    ∃ items, cutFrom sort start stop cursor taken es = .ok (items, true) := by
  induction es generalizing cursor taken with
  | nil =>
    rw [Template.shown_nil, List.length_nil] at hstop
    omega
  | cons e es ih =>
    rw [Template.shown_cons, List.length_append, ← Nat.add_assoc] at hstop
    cases ho : overlaps start stop cursor (cursor + e.part.display.length) with
    | false =>
      have hlast : cursor + e.part.display.length < stop := by
        simp only [overlaps, Bool.and_eq_false_iff, decide_eq_false_iff_not] at ho
        omega
      obtain ⟨items, hitems⟩ := ih taken hl.tail hlast hstop
      simp only [cutFrom, ho, Bool.not_false, if_true, hitems]
      exact ⟨_, rfl⟩
    | true =>
      have hlit := hl _ List.mem_cons_self (overlaps_iff.1 ho)
      simp only [cutFrom, ho, hlit, Bool.not_true, Bool.false_eq_true, if_false]
      split
      · rename_i hlast
        obtain ⟨items, hitems⟩ := ih _ hl.tail hlast hstop
        rw [hitems]
        exact ⟨_, rfl⟩
      · rename_i hlast
        obtain ⟨part, hpart⟩ := hsort (taken.getD [] ++ (e.part.display.take
          (min stop (cursor + e.part.display.length) - cursor)).drop (max start cursor - cursor))
        rw [hpart, cutFrom_after es (Nat.le_of_not_lt hlast)]
        exact ⟨_, rfl⟩

/-- A cut that is not refused has met the end of its stretch, if that is within the parts. -/
theorem met_of_cutFrom {sort : Text} {start stop : Nat} {es : List Entry} {cursor : Nat}
    {taken : Option Text} {items : List Item} {met : Bool} (hab : start < stop) (hc : cursor < stop)
    (hstop : stop ≤ cursor + (shown es).length)
    (h : cutFrom sort start stop cursor taken es = .ok (items, met)) : met = true := by
  induction es generalizing cursor taken items with
  | nil =>
    rw [Template.shown_nil, List.length_nil] at hstop
    omega
  | cons e es ih =>
    rw [Template.shown_cons, List.length_append, ← Nat.add_assoc] at hstop
    simp only [cutFrom] at h
    split at h
    · rename_i ho
      have hlast : cursor + e.part.display.length < stop := by
        simp only [overlaps, Bool.not_eq_true', Bool.and_eq_false_iff,
          decide_eq_false_iff_not] at ho
        omega
      split at h
      · rename_i hr
        cases h
        exact ih hlast hstop hr
      · cases h
    · split at h
      · cases h
      · split at h
        · rename_i hlast
          split at h
          · rename_i hr
            cases h
            exact ih hlast hstop hr
          · cases h
        · split at h
          · cases h
          · split at h <;> cases h
            rfl

theorem makePart_ok_iff {sort : Text} :
    (∀ t, ∃ part, makePart sort t = .ok part) ↔
      sort = Part.Kind.literal.name ∨ sort = Part.Kind.slot.name := by
  constructor
  · intro h
    obtain ⟨part, hpart⟩ := h []
    unfold makePart at hpart
    split at hpart
    · exact .inl ‹_›
    · split at hpart
      · exact .inr ‹_›
      · cases hpart
  · rintro (rfl | rfl) t
    · exact ⟨.literal t, rfl⟩
    · exact ⟨.slot t, rfl⟩

theorem makePart_kind {sort text : Text} {part : Part} (h : makePart sort text = .ok part) :
    part.kind.name = sort := by
  unfold makePart at h
  split at h
  · cases h
    exact Eq.symm ‹_›
  · split at h <;> cases h
    exact Eq.symm ‹_›

namespace Cutting

variable {sort head text tail : Text} {start stop : Nat} {items : List Item} {part : Part}
  {es before run after : List Entry}
  (h : Cutting sort start stop 0 es items before run after head text tail part)

include h

theorem begins : (shown before).length + head.length = start := by
  rw [← h.start_eq, Nat.zero_add]

theorem ends : (shown (before ++ run)).length = stop + tail.length := by
  rw [Template.shown_append, h.shown_run, ← h.stop_eq, ← h.begins]
  simp only [List.length_append]
  omega

theorem before_ends {p : Nat × Entry} (hp : p ∈ withOffsets 0 before) :
    p.1 + p.2.part.display.length ≤ start := by
  have := within_withOffsets hp
  have := h.begins
  omega

theorem after_starts {p : Nat × Entry} (hp : p ∈ withOffsets (shown (before ++ run)).length after) :
    stop ≤ p.1 := by
  have := within_withOffsets hp
  have := h.ends
  omega

theorem withOffsets_eq : withOffsets 0 es =
    withOffsets 0 before ++ withOffsets (shown before).length run ++
      withOffsets (shown (before ++ run)).length after := by
  rw [h.entries_eq, withOffsets_append, withOffsets_append, Nat.zero_add, Nat.zero_add]

theorem run_overlapped {p : Nat × Entry} (hp : p ∈ withOffsets (shown before).length run) :
    Overlapped start stop p := h.overlapped p (by rwa [Nat.zero_add])

/-- The stretch overlaps no part outside the run. -/
theorem literalAlong : LiteralAlong start stop 0 es := by
  intro p hp hover
  rw [h.withOffsets_eq, List.mem_append, List.mem_append] at hp
  rcases hp with (hp | hp) | hp
  · have := h.before_ends hp
    obtain ⟨-, hend⟩ := hover
    omega
  · exact h.literal p.2 (mem_of_withOffsets hp)
  · have := h.after_starts hp
    obtain ⟨hbegin, -⟩ := hover
    omega

theorem run_ne_nil (hlt : start < stop) : run ≠ [] := by
  rintro rfl
  have hends := h.ends
  have := h.begins
  rw [List.append_nil] at hends
  omega

theorem head_eq {first : Entry} {rest : List Entry} (hrun : run = first :: rest) :
    head = first.part.display.take (start - (shown before).length) := by
  have hlen : start - (shown before).length = head.length := by
    have := h.begins
    omega
  have hle : head.length ≤ first.part.display.length := by
    subst hrun
    have hover := (h.run_overlapped (p := ((shown before).length, first)) List.mem_cons_self).2
    have := h.begins
    dsimp only at hover
    omega
  have hshown := h.shown_run
  rw [hrun, Template.shown_cons, List.append_assoc] at hshown
  have htake : (first.part.display ++ shown rest).take head.length =
      first.part.display.take head.length := List.take_append_of_le_length hle
  rw [hlen, ← htake, hshown, List.take_left]

theorem tail_eq {front : List Entry} {last : Entry} (hrun : run = front ++ [last]) :
    tail = last.part.display.drop (stop - (shown (before ++ front)).length) := by
  have hover : (shown (before ++ front)).length < stop := by
    refine (h.run_overlapped (p := ((shown (before ++ front)).length, last)) ?_).1
    rw [hrun, withOffsets_append, Template.shown_append, List.length_append]
    exact List.mem_append_right _ (List.mem_singleton_self _)
  have hshown : shown (before ++ front) ++ last.part.display =
      (shown before ++ head ++ text) ++ tail := by
    rw [← Template.shown_singleton last, ← Template.shown_append, List.append_assoc, ← hrun,
      Template.shown_append, h.shown_run]
    simp only [List.append_assoc]
  have hlen : (shown before ++ head ++ text).length = stop := by
    rw [List.length_append, List.length_append, h.begins, h.stop_eq]
  have hdrop := congrArg (List.drop stop) hshown
  rw [List.drop_left' hlen, List.drop_append, List.drop_eq_nil_of_le (Nat.le_of_lt hover),
    List.nil_append] at hdrop
  exact hdrop.symm

end Cutting

/-! ## Stamps of a cut -/

theorem stamped_kept_append (next : Nat) (es : List Entry) (items : List Item) :
    (Template.stamped next (kept es ++ items)).1 = es ++ (Template.stamped next items).1 := by
  induction es with
  | nil => rfl
  | cons e es ih => exact congrArg (e :: ·) ih

theorem stamped_append_kept (next : Nat) (items : List Item) (es : List Entry) :
    (Template.stamped next (items ++ kept es)).1 = (Template.stamped next items).1 ++ es := by
  induction items generalizing next with
  | nil => simpa [Template.stamped] using stamped_kept_append next es []
  | cons i items ih =>
    cases i with
    | new p => exact congrArg (_ :: ·) (ih (next + 1))
    | kept e => exact congrArg (e :: ·) (ih next)

/-- New parts alone have new stamps alone. -/
theorem le_stamp_of_new {next : Nat} {items : List Item} (h : ∀ i ∈ items, ∃ p, i = .new p)
    {e : Entry} (he : e ∈ (Template.stamped next items).1) : next ≤ e.stamp := by
  induction items generalizing next with
  | nil => cases he
  | cons i items ih =>
    obtain ⟨p, rfl⟩ := h i List.mem_cons_self
    rcases List.mem_cons.1 he with rfl | he
    · exact Nat.le_refl _
    · have := ih (fun j hj => h j (List.mem_cons_of_mem _ hj)) he
      omega

/-- A literal part for a text, if there is any text. -/
def leftOver (t : Text) : List Part := if t.isEmpty then [] else [.literal t]

theorem remnant_parts (t : Text) : (remnant t).map Item.part = leftOver t := by
  unfold remnant leftOver
  split <;> rfl

theorem remnant_new {t : Text} {i : Item} (hi : i ∈ remnant t) : ∃ p, i = .new p :=
  ⟨_, mem_remnant hi⟩

/-- The entries `es` become `es'` as the stretch from `start` to before `stop` of the input becomes
one part: the run of the entries that it overlaps, all of them literal, gives way to new ones. -/
structure Converted (sort input : Text) (start stop : Nat)
    (es es' before run made after : List Entry) : Prop where
  entries : es = before ++ run ++ after
  result : es' = before ++ made ++ after
  before_ends : ∀ p ∈ withOffsets 0 before, p.1 + p.2.part.display.length ≤ start
  overlapped : ∀ p ∈ withOffsets (shown before).length run,
    p.1 < stop ∧ start < p.1 + p.2.part.display.length
  after_starts : ∀ p ∈ withOffsets (shown (before ++ run)).length after, stop ≤ p.1
  literal : ∀ e ∈ run, e.part.isLiteral = true
  new : ∀ e ∈ made, ∀ f ∈ es, e.stamp ≠ f.stamp
  parts : ∃ first rest front last part, run = first :: rest ∧ run = front ++ [last] ∧
    part.kind.name = sort ∧ part.display = (input.take stop).drop start ∧
    made.map Entry.part =
      leftOver (first.part.display.take (start - (shown before).length)) ++
        part :: leftOver (last.part.display.drop (stop - (shown (before ++ front)).length))

theorem Cutting.converted {sort head text tail : Text} {start stop : Nat} {items : List Item}
    {part : Part} {es before run after : List Entry}
    (h : Cutting sort start stop 0 es items before run after head text tail part)
    (hlt : start < stop) {next : Nat} (hnext : ∀ e ∈ es, e.stamp < next) :
    ∃ made, Converted sort (shown es) start stop es (Template.stamped next items).1
      before run made after := by
  let new := remnant head ++ .new part :: remnant tail
  have hnew : ∀ i ∈ new, ∃ p, i = .new p := by
    intro i hi
    rcases List.mem_append.1 hi with hi | hi
    · exact remnant_new hi
    · rcases List.mem_cons.1 hi with rfl | hi
      · exact ⟨part, rfl⟩
      · exact remnant_new hi
  have hrun := h.run_ne_nil hlt
  obtain ⟨first, rest, hfirst⟩ := List.exists_cons_of_ne_nil hrun
  obtain ⟨front, last, hlast⟩ := (List.eq_nil_or_concat run).resolve_left hrun
  rw [List.concat_eq_append] at hlast
  obtain ⟨-, -, -, -, htext, -⟩ := h.placed
  refine ⟨(Template.stamped next new).1, h.entries_eq, ?_, fun p hp => h.before_ends hp,
    fun p hp => h.run_overlapped hp, fun p hp => h.after_starts hp, h.literal, ?_,
    first, rest, front, last, part, hfirst, hlast, makePart_kind h.made, htext, ?_⟩
  · rw [h.items_eq, stamped_append_kept, stamped_kept_append]
  · intro e he f hf
    have := le_stamp_of_new hnew he
    have := hnext f hf
    omega
  · rw [Template.stamped_parts, ← h.head_eq hfirst, ← h.tail_eq hlast, List.map_append,
      List.map_cons, remnant_parts, remnant_parts]
    rfl

namespace Session

variable {σ : Type}

section Convert

variable {s : Session σ} {sort : Text} {a b : Int}

/-- A selection of something within the input is a matter of the cut. -/
theorem convertAt_eq (hab : a ≠ b) (hinput : s.input.isBlank = false) (hmin : 0 ≤ min a b)
    (hmax : max a b ≤ s.input.length) : s.convertAt sort a b =
      match cut sort (min a b).toNat (max a b).toNat s.template.entries with
      | .error .notLiteral => .ok (s.refuse .notLiteral)
      | .error (.unknownSort e) => .error e
      | .ok (_, false) => .ok (s.refuse .noOverlap)
      | .ok (items, true) =>
        .ok (settle { s with template := s.template.replace items true false }, true) := by
  have hsome : s.input.isEmpty = false := by
    cases h : s.input with
    | nil =>
      rw [h] at hinput
      cases hinput
    | cons c t => rfl
  have hdiffer : ¬min a b = max a b := by omega
  have hwithin : ¬(min a b < 0 ∨ (s.input.length : Int) < max a b) := by omega
  rw [convertAt, if_neg hdiffer, hsome, if_neg Bool.false_ne_true]
  exact if_neg hwithin

/-- In a session with a visible input the parts show it. -/
theorem Coherent.shown_entries {template : Template} {input : Text} (h : Coherent template input)
    (hinput : input.isBlank = false) : shown template.entries = input := by
  rcases h.agrees with ⟨hblank, -, -⟩ | hshows
  · rw [hinput] at hblank
    cases hblank
  · exact (hshows template.entries (List.mem_cons_self ..)).1

variable (hs : Coherent s.template s.input) (hinput : s.input.isBlank = false) (hab : a ≠ b)
  (hmin : 0 ≤ min a b) (hmax : max a b ≤ s.input.length)

include hs hinput hab hmin hmax

theorem convertAt_ok_iff : (∃ s', s.convertAt sort a b = .ok (s', true)) ↔
    (∀ t, ∃ part, makePart sort t = .ok part) ∧
      LiteralAlong (min a b).toNat (max a b).toNat 0 s.template.entries := by
  have hshown := hs.shown_entries hinput
  constructor
  · rintro ⟨s', h⟩
    obtain ⟨hdone, -⟩ | ⟨-, items, hlt, -, hcut, -⟩ := convertAt_cases h
    · cases hdone
    obtain ⟨before, run, after, head, text, tail, part, cutting⟩ := cut_cutting hlt hcut
    refine ⟨makePart_ok_iff.2 ?_, cutting.literalAlong⟩
    have hkind := makePart_kind cutting.made
    rcases makePart_eq_ok cutting.made with rfl | rfl
    · exact .inl hkind.symm
    · exact .inr hkind.symm
  · rintro ⟨hsort, hliteral⟩
    have hlt : (min a b).toNat < (max a b).toNat := by omega
    obtain ⟨items, hcut⟩ := cutFrom_ok hsort hlt none hliteral (by omega) (by rw [hshown]; omega)
    rw [convertAt_eq hab hinput hmin hmax, cut, hcut]
    exact ⟨_, rfl⟩

theorem convertAt_error {s' : Session σ} {done : Bool} (h : s.convertAt sort a b = .ok (s', done)) :
    s'.error ≠ some .noOverlap := by
  have hshown := hs.shown_entries hinput
  rw [convertAt_eq hab hinput hmin hmax] at h
  split at h
  · cases h
    exact nofun
  · cases h
  · rename_i items hcut
    have := met_of_cutFrom (by omega) (by omega) (by rw [hshown]; omega) hcut
    cases this
  · cases h
    exact nofun

omit hab hmin hmax in
theorem convertAt_converted {s' : Session σ} (h : s.convertAt sort a b = .ok (s', true)) :
    s'.input = s.input ∧ s'.template.display = s.template.display ∧
      ∃ before run made after, Converted sort s.input (min a b).toNat (max a b).toNat
        s.template.entries s'.template.entries before run made after := by
  obtain ⟨hdone, -⟩ | ⟨-, items, hlt, -, hcut, rfl⟩ := convertAt_cases h
  · cases hdone
  obtain ⟨before, run, after, head, text, tail, part, cutting⟩ := cut_cutting hlt hcut
  have hentries := Template.entries_replace hs.stamped cutting.fresh true false
  refine ⟨rfl, ?_, before, run, ?_⟩
  · show Part.displayAll (s.template.replace items true false).parts = _
    rw [Template.parts_replace hs.stamped cutting.fresh, cutting.displayAll]
    rfl
  · obtain ⟨made, hconverted⟩ := cutting.converted hlt
      (hs.stamped s.template.entries (List.mem_cons_self ..))
    rw [hs.shown_entries hinput, ← hentries] at hconverted
    exact ⟨made, after, hconverted⟩

end Convert

/-- **A selection becomes a part where all it overlaps is literal.** In a session with a visible
input, a selection of something within it is converted exactly if the sort is that of a literal or
of a slot and every part that the selection overlaps is literal. The parts before and after it stay
the ones they are, and in the place of those between there is one part of the sort that holds the
selected text, with what is left over of the first and of the last of them on either side. All parts
together show the same as before. A selection is never refused for overlapping nothing. -/
theorem run_converts [Surface σ] (surface : Option σ) (feed : Feed) (limit : Option Int)
    (actions : List (Action σ)) (sort : Text) (given : Option (Int × Int)) (a b : Int) :
    let s := (Session.new surface feed limit).run actions
    s.input.isBlank = false → s.selected given = some (a, b) →
      a ≠ b → 0 ≤ min a b → max a b ≤ s.input.length →
      ((∃ s', s.convert sort given = .ok (s', true)) ↔
        (sort = "literal".toList ∨ sort = "variable".toList) ∧
          ∀ p ∈ withOffsets 0 s.template.entries,
            (p.1 : Int) < max a b ∧ min a b < p.1 + p.2.part.display.length →
              p.2.part.isLiteral = true) ∧
      (∀ s', s.convert sort given = .ok (s', true) → s'.input = s.input ∧
        s'.template.display = s.template.display ∧
        ∃ before run made after, Converted sort s.input (min a b).toNat (max a b).toNat
          s.template.entries s'.template.entries before run made after) ∧
      ∀ s' done, s.convert sort given = .ok (s', done) → s'.error ≠ some .noOverlap := by
  intro s hinput hselected hab hmin hmax
  have hs : Coherent s.template s.input :=
    run_coherent actions (s := Session.new surface feed limit) (new_coherent limit)
  have hconvert : s.convert sort given = s.convertAt sort a b := by
    rw [convert, hselected]
  rw [hconvert]
  refine ⟨?_, fun s' h => convertAt_converted hs hinput h,
    fun s' done h => convertAt_error hs hinput hab hmin hmax h⟩
  refine (convertAt_ok_iff hs hinput hab hmin hmax).trans (and_congr makePart_ok_iff ?_)
  refine forall₂_congr fun p hp => imp_congr_left ?_
  rw [Overlapped]
  omega

/-- From the right, over a literal with a part of the one before it and of the one behind it. -/
theorem run_converts_literals :
    let actions : List (Action TextBox) :=
      [.type "abcdef".toList, .convert "literal".toList (some (2, 4))]
    let s := (Session.new none Feed.empty none).run actions
    s.input.isBlank = false ∧ s.selected (some (5, 1)) = some (5, 1) ∧
      (5 : Int) ≠ 1 ∧ 0 ≤ min (5 : Int) 1 ∧ max 5 1 ≤ (s.input.length : Int) ∧
      ∃ s', s.convert "variable".toList (some (5, 1)) = .ok (s', true) ∧
        s'.template.display = "abcdef".toList ∧ s'.error ≠ some .noOverlap ∧
        ∃ before run made after, Converted "variable".toList "abcdef".toList 1 5
          s.template.entries s'.template.entries before run made after := by
  intro actions s
  have hinput : s.input = "abcdef".toList := by decide +kernel
  have hmax : max 5 1 ≤ (s.input.length : Int) := by
    rw [hinput]
    decide
  obtain ⟨hiff, hconverted, herror⟩ := run_converts none Feed.empty none actions
    "variable".toList (some (5, 1)) 5 1 (by decide +kernel) rfl (by decide) (by decide) hmax
  obtain ⟨s', hs'⟩ := hiff.2 ⟨.inr rfl, by decide +kernel⟩
  obtain ⟨-, hdisplay, hentries⟩ := hconverted s' hs'
  exact ⟨by decide +kernel, rfl, by decide, by decide, hmax, s', hs',
    hdisplay.trans (by decide +kernel), herror s' true hs', hinput ▸ hentries⟩

end Session

end CitationStudio.Tagging
