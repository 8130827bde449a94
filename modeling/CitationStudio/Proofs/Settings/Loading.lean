import CitationStudio.Proofs.Settings.Obstacles
import CitationStudio.Settings.Sources

/-! # What layered files do to loading

The files of the user and of the project are gone through one after the other, and what stands in
them decides whether loading gets past them. What a JSON text holds can be written as far as the
stack reaches, so beyond that the entries for the known keys are got past unless an infinite number
stands where a whole one is due. A file that gives no layer changes no setting. So the settings are
those of the files that do. -/

namespace CitationStudio.Settings

variable {stack : Stack}

/-! ## Files -/

def layer? : Value → Option Layer
  | .map layer => some layer
  | _ => none

theorem all_layer? (v : Value) :
    (layer? v).all (passes stack) = passes stack (layerOf v) := by
  cases v <;> rfl

theorem after_nil (s : Settings) : s.after [] = s := by
  simp [after, Value.lookup?, Key.all]

theorem foldl_layer? (v : Value) (s : Settings) :
    (layer? v).toList.foldl after s = s.after (layerOf v) := by
  cases v with
  | map layer => rfl
  | _ => exact (after_nil s).symm

theorem layerOf_writable {v : Value} (hv : v.isWritable = true) :
    Value.entriesWritable (layerOf v) = true := by
  cases v with
  | map layer => rwa [Value.isWritable] at hv
  | _ => rfl

/-- The layer that a file gives: it is in UTF-8 and in JSON, and a map. -/
def contributed (stack : Stack) (c : Content) : Option Layer :=
  c.text.toOption.bind fun t => (Json.parse stack.json t).toOption.bind layer?

/-- A file that loading gets past: it is in UTF-8, no numeral in it is too long, no more lists and
maps are opened in it than may be open, and loading gets past each of its entries. -/
structure Tolerable (stack : Stack) (c : Content) : Prop where
  decodes : c.text ≠ .error .undecodable
  short : ∀ t digits, c.text = .ok t → Json.parse stack.json t ≠ .error (.tooLong digits)
  shallow : ∀ t inMap, c.text = .ok t → Json.parse stack.json t ≠ .error (.tooDeep inMap)
  passed : (contributed stack c).all (passes stack) = true

section Texts

variable {c : Content} {t : Text}

theorem contributed_of_ok (hc : c.text = .ok t) :
    contributed stack c = (Json.parse stack.json t).toOption.bind layer? := by
  rw [contributed, hc]
  rfl

theorem contributed_of_error {f : Json.Failure} (hc : c.text = .ok t)
    (hf : Json.parse stack.json t = .error f) : contributed stack c = none := by
  rw [contributed_of_ok hc, hf]
  rfl

/-- A text is tolerable if it is read or malformed, and loading gets past what it gives. -/
theorem tolerable_of_ok (hc : c.text = .ok t)
    (hread : ∀ f, Json.parse stack.json t = .error f → f = .malformed)
    (hpassed : (contributed stack c).all (passes stack) = true) : Tolerable stack c := by
  refine ⟨?_, fun u digits hu hf => ?_, fun u inMap hu hf => ?_, hpassed⟩
  · rw [hc]
    exact nofun
  · obtain rfl := Except.ok.inj (hc.symm.trans hu)
    cases hread _ hf
  · obtain rfl := Except.ok.inj (hc.symm.trans hu)
    cases hread _ hf

/-- What is read from a file that need not hold settings. A value that is no map is read as a layer
without entries. -/
inductive Read (stack : Stack) (c : Content) : Except LoadError (Option Layer) → Prop
  | stopped (e : LoadError) : ¬ Tolerable stack c → Read stack c (.error e)
  | ignored : Tolerable stack c → contributed stack c = none → Read stack c (.ok none)
  | layer (layer : Layer) : (Tolerable stack c ↔ passes stack layer = true) →
      Value.entriesWritable layer = true →
      (∀ s, (contributed stack c).toList.foldl after s = s.after layer) →
      Read stack c (.ok (some layer))

theorem read_value {v : Value} (hc : c.text = .ok t) (hv : Json.parse stack.json t = .ok v) :
    Read stack c (.ok (some (layerOf v))) := by
  have hread : ∀ f, Json.parse stack.json t = .error f → f = .malformed := by
    rw [hv]
    exact nofun
  have hcontributed : contributed stack c = layer? v := by
    rw [contributed_of_ok hc, hv]
    rfl
  refine .layer (layerOf v) ⟨fun h => ?_, fun h => tolerable_of_ok hc hread ?_⟩
    (layerOf_writable (Json.parse_isWritable hv)) fun s => ?_
  · have hpassed := h.passed
    rwa [hcontributed, all_layer?] at hpassed
  · rwa [hcontributed, all_layer?]
  · rw [hcontributed]
    exact foldl_layer? v s

theorem readLenient_read (stack : Stack) (p : Path) (c : Content) :
    Read stack c (readLenient stack p c) := by
  unfold readLenient
  split
  · rename_i hc
    exact .stopped _ fun h => h.decodes hc
  · rename_i e hdecodes hc
    have hcontributed : contributed stack c = none := by
      rw [contributed, hc]
      rfl
    refine .ignored ⟨fun hu => ?_, fun t _ ht => ?_, fun t _ ht => ?_, ?_⟩ hcontributed
    · exact hdecodes (Except.error.inj (hc.symm.trans hu))
    · cases hc.symm.trans ht
    · cases hc.symm.trans ht
    · rw [hcontributed]
      rfl
  · rename_i t hc
    split
    · rename_i v hv
      exact read_value hc hv
    · rename_i hv
      have hcontributed := contributed_of_error hc hv
      refine .ignored (tolerable_of_ok hc (fun f hf => ?_) ?_) hcontributed
      · exact Except.error.inj (hf.symm.trans hv)
      · rw [hcontributed]
        rfl
    · rename_i f hmalformed hv
      refine .stopped _ fun h => ?_
      cases f with
      | malformed => exact hmalformed rfl
      | tooLong digits => exact h.short t digits hc hv
      | tooDeep inMap => exact h.shallow t inMap hc hv

end Texts

/-! ## Loading -/

/-- Loading has gone through files: it has stopped at one, or its settings are changed by the layers
that the files give. -/
structure Through (stack : Stack) (disk : Disk) (ps : List Path) (s : Settings) (l : Loading) :
    Prop where
  clear_iff : l.failure = none ↔ ∀ p ∈ ps, Tolerable stack (disk p)
  settings : l.failure = none →
    l.report.settings = (ps.filterMap fun p => contributed stack (disk p)).foldl after s

section Lenient

variable {disk : Disk} {p : Path} (l : Loading) (sources : Sources)

theorem Loading.enterLenient_stopped {e : LoadError} (h : readLenient stack p (disk p) = .error e) :
    l.enterLenient stack disk p sources = l.fail e := by
  rw [enterLenient, h]

theorem Loading.enterLenient_ignored (h : readLenient stack p (disk p) = .ok none) :
    l.enterLenient stack disk p sources =
      { l with report := l.report.warn (.unreadable p.text), sources } := by
  rw [enterLenient, h]

theorem Loading.enterLenient_layer {layer : Layer}
    (h : readLenient stack p (disk p) = .ok (some layer)) :
    l.enterLenient stack disk p sources = l.enter stack layer sources := by
  rw [enterLenient, h]

end Lenient

/-- Loading stops at the first obstacle of a layer. -/
theorem Loading.enter_failure {l : Loading} (hl : l.failure = none) (layer : Layer)
    (sources : Sources) :
    (l.enter stack layer sources).failure = (obstacle? stack layer).map .obstacle := by
  rw [← Report.addLayer_obstacle l.report, enter]
  split <;> rename_i hadd <;> rw [hadd]
  · exact hl
  · rfl

theorem Loading.enter_clear_iff {l : Loading} (hl : l.failure = none) {layer : Layer}
    (h : Value.entriesWritable layer = true) (sources : Sources) :
    (l.enter stack layer sources).failure = none ↔ passes stack layer = true := by
  rw [enter_failure hl, Option.map_eq_none_iff]
  exact (obstacle?_of_writable stack h).1

theorem Loading.enter_settings {l : Loading} {layer : Layer} {sources : Sources}
    (h : (l.enter stack layer sources).failure = none) :
    (l.enter stack layer sources).report.settings = l.report.settings.after layer := by
  unfold enter at h ⊢
  split at h
  · rename_i hadd
    exact Report.addLayer_ok hadd
  · cases h

namespace Through

variable {disk : Disk} {ps qs : List Path} {s : Settings} {l : Loading}

theorem start (hl : l.failure = none) : Through stack disk [] l.report.settings l :=
  ⟨iff_of_true hl nofun, fun _ => rfl⟩

theorem file (hl : l.failure = none) (p : Path) (sources : Sources) :
    Through stack disk [p] l.report.settings (l.enterLenient stack disk p sources) := by
  have hread := readLenient_read stack p (disk p)
  have hlayers : [p].filterMap (fun p => contributed stack (disk p)) =
      (contributed stack (disk p)).toList := by
    cases h : contributed stack (disk p) <;> simp [h]
  generalize ho : readLenient stack p (disk p) = o at hread
  cases hread with
  | stopped e h =>
    rw [Loading.enterLenient_stopped l sources ho]
    exact ⟨iff_of_false nofun fun hall => h (hall p List.mem_cons_self), nofun⟩
  | ignored h hcontributed =>
    rw [Loading.enterLenient_ignored l sources ho]
    refine ⟨iff_of_true hl fun q hq => ?_, fun _ => ?_⟩
    · rwa [List.mem_singleton.1 hq]
    · rw [hlayers, hcontributed]
      rfl
  | layer layer hiff hwritable hafter =>
    rw [Loading.enterLenient_layer l sources ho]
    refine ⟨?_, fun hclear => ?_⟩
    · rw [List.forall_mem_singleton, hiff]
      exact Loading.enter_clear_iff hl hwritable sources
    · rw [hlayers, hafter]
      exact Loading.enter_settings hclear

theorem andThen (h : Through stack disk ps s l) {step : Loading → Loading}
    (hstep : l.failure = none → Through stack disk qs l.report.settings (step l)) :
    Through stack disk (ps ++ qs) s (l.andThen step) := by
  cases hl : l.failure with
  | some e =>
    have hfailed : l.failure ≠ none := by
      rw [hl]
      exact nofun
    rw [Loading.andThen, if_pos (Option.isSome_of_eq_some hl)]
    refine ⟨iff_of_false hfailed fun hall => ?_, fun hclear => absurd hclear hfailed⟩
    exact hfailed (h.clear_iff.2 fun p hp => hall p (List.mem_append_left qs hp))
  | none =>
    have hps := h.clear_iff.1 hl
    rw [Loading.andThen, if_neg (Option.not_isSome_iff_eq_none.2 hl)]
    refine ⟨(hstep hl).clear_iff.trans ?_, fun hclear => ?_⟩
    · rw [List.forall_mem_append]
      exact (and_iff_right hps).symm
    · rw [(hstep hl).settings hclear, h.settings hl, List.filterMap_append, List.foldl_append]

end Through

/-- The layered files that are there, in the order in which loading goes through them. -/
def layered (disk : Disk) (home folder : Path) : List Path :=
  (if (disk (userFile home)).isFile then [userFile home] else []) ++
    (projectFile? disk folder).toList

end CitationStudio.Settings
