import CitationStudio.Settings.Basic

/-! # Settings by their last valid entries

A layer that can be gone through changes each setting by its own entry alone (`after`): a valid
entry replaces the setting, and an invalid one leaves it as it is. The seed is the exception, which
an invalid entry takes away. So after all layers each setting but the seed has its last valid entry
(`resolved`), and the seed has its last entry of all. -/

namespace CitationStudio

/-- The count that a value gives: a whole number that is not negative. -/
def Value.count? (v : Value) : Option Nat :=
  match v.whole? with
  | .ok (some n) => if 0 ≤ n then some n.toNat else none
  | _ => none

/-- The seed that a value gives: a count, or none for an empty value. -/
def Value.seed? : Value → Option (Option Nat)
  | .null => some none
  | v => v.count?.map some

theorem Value.seed?_of_ne_null {v : Value} (h : v ≠ .null) : v.seed? = v.count?.map some := by
  unfold seed?
  split
  · exact absurd rfl h
  · rfl

namespace Settings

abbrev Layer := List (Value × Value)

/-- Is a value valid for a key? -/
def Key.accepts (k : Key) (v : Value) : Bool :=
  match k with
  | .historyLimit | .maxCombinations | .sampleBudget => v.count?.isSome
  | .overflow => (Overflow.ofName? v.text).isSome
  | .sampleSeed => v.seed?.isSome
  | .renderer => true

/-- The values that layers have for a key, in order. -/
def entries (k : Key) (layers : List Layer) : List Value := layers.filterMap (Value.lookup? k.name)

/-- What the last valid value for a key gives. -/
def lastValid {α : Type} (k : Key) (valid? : Value → Option α) (layers : List Layer) : Option α :=
  ((entries k layers).filterMap valid?).getLast?

/-- The settings if each of them has its last valid value, or the usual one without any. -/
def resolved (layers : List Layer) : Settings where
  historyLimit := (lastValid .historyLimit Value.count? layers).getD 100
  maxCombinations := ((lastValid .maxCombinations Value.count? layers).getD 4096 : Nat)
  sampleBudget := (lastValid .sampleBudget Value.count? layers).getD 256
  overflow := (lastValid .overflow (fun v => Overflow.ofName? v.text) layers).getD .refuse
  sampleSeed := (lastValid .sampleSeed Value.seed? layers).getD none
  renderer := (lastValid .renderer (fun v => some v.runes) layers).getD (.ofText "bracket".toList)

/-- The seed of the last value there is for it, valid or not. -/
def lastSeed (layers : List Layer) : Option Nat :=
  ((entries .sampleSeed layers).getLast?.bind Value.seed?).join

/-! ## One entry -/

/-- Settings with the value of a layer for a key, if it has one. -/
def Key.put (k : Key) (o : Option Value) (s : Settings) : Settings :=
  match k with
  | .historyLimit => { s with historyLimit := (o.bind Value.count?).getD s.historyLimit }
  | .maxCombinations =>
    { s with maxCombinations := ((o.bind Value.count?).map Int.ofNat).getD s.maxCombinations }
  | .sampleBudget => { s with sampleBudget := (o.bind Value.count?).getD s.sampleBudget }
  | .overflow =>
    { s with overflow := (o.bind fun v => Overflow.ofName? v.text).getD s.overflow }
  | .sampleSeed => { s with sampleSeed := (o.map fun v => v.seed?.join).getD s.sampleSeed }
  | .renderer => { s with renderer := (o.bind fun v => some v.runes).getD s.renderer }

@[simp] theorem Key.put_none (k : Key) (s : Settings) : k.put none s = s := by cases k <;> rfl

variable {stack : Stack}

theorem warned_ok {v : Value} {w : Warning} {c : Except Warning Nat}
    (h : warned stack v w = .ok c) : c = .error w := by
  unfold warned at h
  split at h <;> cases h
  rfl

theorem count_ok {name : Text} {v : Value} {c : Except Warning Nat}
    (h : count stack name v = .ok c) : v.count? = c.toOption := by
  unfold count at h
  unfold Value.count?
  split at h
  · cases h
  · rename_i hw
    rw [hw, warned_ok h]
    rfl
  · rename_i n hw
    rw [hw]
    dsimp only
    split at h
    · rename_i hn
      cases h
      rw [if_pos hn]
      rfl
    · rename_i hn
      rw [if_neg hn, warned_ok h]
      rfl

namespace Report

theorem setCount_ok {r r' : Report} {name : Text} {v : Value} {set : Nat → Settings}
    (h : r.setCount stack name v set = .ok r') :
    r'.settings = (v.count?.map set).getD r.settings := by
  unfold setCount at h
  split at h
  · cases h
  · rename_i n hc
    cases h
    rw [count_ok hc]
    rfl
  · rename_i w hc
    cases h
    rw [count_ok hc]
    rfl

/-- An entry sets its own key alone. -/
theorem enter_ok {r r' : Report} {k : Key} {v : Value} (h : r.enter stack k v = .ok r') :
    r'.settings = k.put (some v) r.settings := by
  cases k with
  | historyLimit | maxCombinations | sampleBudget =>
    rw [setCount_ok h, Key.put, Option.bind_some]
    cases v.count? <;> rfl
  | overflow =>
    rw [Key.put, Option.bind_some]
    simp only [enter] at h
    split at h
    · cases h
    · rename_i ho
      cases h
      rw [ho]
      rfl
    · rename_i ho
      cases h
      rw [ho]
      rfl
  | sampleSeed =>
    rw [Key.put, Option.map_some, Option.getD_some]
    simp only [enter] at h
    split at h
    · cases h
      rfl
    · rename_i hv
      rw [setCount_ok h, Value.seed?_of_ne_null hv]
      cases v.count? <;> rfl
  | renderer =>
    simp only [enter] at h
    split at h <;> cases h
    rfl

/-- An invalid entry leaves the settings as they are, except that it takes the seed away. -/
theorem enter_invalid {r r' : Report} {k : Key} {v : Value} (h : r.enter stack k v = .ok r')
    (hv : k.accepts v = false) : r'.settings =
      if k = .sampleSeed then { r.settings with sampleSeed := none } else r.settings := by
  rw [enter_ok h]
  cases k with
  | historyLimit | maxCombinations | sampleBudget =>
    have hc : v.count? = none := Option.isSome_eq_false_iff.1 hv |> Option.isNone_iff_eq_none.1
    rw [Key.put, Option.bind_some, hc]
    rfl
  | overflow =>
    have ho : Overflow.ofName? v.text = none :=
      Option.isSome_eq_false_iff.1 hv |> Option.isNone_iff_eq_none.1
    rw [Key.put, Option.bind_some, ho]
    rfl
  | sampleSeed =>
    have hs : v.seed? = none := Option.isSome_eq_false_iff.1 hv |> Option.isNone_iff_eq_none.1
    rw [Key.put, Option.map_some, hs]
    rfl
  | renderer => cases hv

/-! ## Layers -/

theorem foldl_stopped {β : Type} {f : Progress → β → Progress}
    (hf : ∀ r e b, f (r, some e) b = (r, some e)) (bs : List β) (r : Report) (e : Obstacle) :
    bs.foldl f (r, some e) = (r, some e) := by
  induction bs with
  | nil => rfl
  | cons b bs ih => rw [List.foldl_cons, hf, ih]

theorem Progress.eq_of_clear {p : Progress} (h : p.2 = none) : p = (p.1, none) := Prod.ext rfl h

theorem foldl_step_stopped (layer : Layer) (ks : List Key) (r : Report) (e : Obstacle) :
    ks.foldl (step stack layer) (r, some e) = (r, some e) :=
  foldl_stopped (fun _ _ _ => rfl) ks r e

theorem step_none {layer : Layer} {k : Key} (h : Value.lookup? k.name layer = none) (r : Report) :
    step stack layer (r, none) k = (r, none) := by
  simp only [step, h]

theorem step_ok {layer : Layer} {k : Key} {v : Value} (h : Value.lookup? k.name layer = some v)
    {r r' : Report} (he : r.enter stack k v = .ok r') :
    step stack layer (r, none) k = (r', none) := by
  simp only [step, h, he]

theorem step_error {layer : Layer} {k : Key} {v : Value}
    (h : Value.lookup? k.name layer = some v) {r : Report} {e : Obstacle}
    (he : r.enter stack k v = .error e) : step stack layer (r, none) k = (r, some e) := by
  simp only [step, h, he]

/-- A layer that is gone through puts what it has for each key. -/
theorem foldl_step_ok {layer : Layer} {ks : List Key} {r r' : Report}
    (h : ks.foldl (step stack layer) (r, none) = (r', none)) :
    r'.settings = ks.foldl (fun s k => k.put (Value.lookup? k.name layer) s) r.settings := by
  induction ks generalizing r with
  | nil =>
    cases h
    rfl
  | cons k ks ih =>
    rw [List.foldl_cons] at h ⊢
    cases hv : Value.lookup? k.name layer with
    | none =>
      rw [step_none hv] at h
      rw [ih h, Key.put_none]
    | some v =>
      cases he : r.enter stack k v with
      | ok r₁ =>
        rw [step_ok hv he] at h
        rw [ih h, enter_ok he]
      | error e =>
        rw [step_error hv he, foldl_step_stopped] at h
        cases h

end Report

/-- Settings after a layer: each with what the layer has for its key. -/
def after (s : Settings) (layer : Layer) : Settings :=
  Key.all.foldl (fun s k => k.put (Value.lookup? k.name layer) s) s

theorem Report.addLayer_ok {layer : Layer} {r r' : Report}
    (h : Report.addLayer stack (r, none) layer = (r', none)) :
    r'.settings = r.settings.after layer := foldl_step_ok h

theorem Report.addLayers_ok {layers : List Layer} {r r' : Report}
    (h : Report.addLayers stack (r, none) layers = (r', none)) :
    r'.settings = layers.foldl after r.settings := by
  induction layers generalizing r with
  | nil =>
    cases h
    rfl
  | cons layer layers ih =>
    rw [Report.addLayers, List.foldl_cons] at h
    rcases hp : Report.addLayer stack (r, none) layer with ⟨r₁, _ | e⟩
    · rw [hp] at h
      rw [List.foldl_cons, ih h, Report.addLayer_ok hp]
    · rw [hp, foldl_stopped (fun r e layer => foldl_step_stopped layer Key.all r e)] at h
      cases h

/-! ## The last entries -/

/-- A setting that every layer replaces or leaves ends up as the last layer that has it says. -/
theorem foldl_after_last {α : Type} (field : Settings → α) (given : Layer → Option α)
    (h : ∀ s layer, field (after s layer) = (given layer).getD (field s)) (layers : List Layer)
    (s : Settings) :
    field (layers.foldl after s) = (layers.filterMap given).getLast?.getD (field s) := by
  induction layers generalizing s with
  | nil => rfl
  | cons layer layers ih =>
    rw [List.foldl_cons, ih, h, List.filterMap_cons]
    cases given layer with
    | none => rfl
    | some a =>
      dsimp only
      rw [List.getLast?_cons]
      cases (layers.filterMap given).getLast? <;> rfl

theorem lastValid_eq {α : Type} (k : Key) (valid? : Value → Option α) (layers : List Layer) :
    lastValid k valid? layers =
      (layers.filterMap fun layer => (Value.lookup? k.name layer).bind valid?).getLast? := by
  rw [lastValid, entries, List.filterMap_filterMap]

theorem getLast?_filterMap_map {α β : Type} (f : Layer → Option α) (g : α → β)
    (layers : List Layer) : (layers.filterMap fun layer => (f layer).map g).getLast? =
      (layers.filterMap f).getLast?.map g := by
  rw [← List.map_filterMap, List.getLast?_map]

/-- All layers together: the last valid entries, but the last entry of all for the seed. -/
theorem foldl_after (layers : List Layer) :
    layers.foldl after {} = { resolved layers with sampleSeed := lastSeed layers } := by
  have hhistory := foldl_after_last Settings.historyLimit
    (fun layer => (Value.lookup? Key.historyLimit.name layer).bind Value.count?)
    (fun _ _ => rfl) layers {}
  have hcap := foldl_after_last Settings.maxCombinations
    (fun layer => ((Value.lookup? Key.maxCombinations.name layer).bind Value.count?).map Int.ofNat)
    (fun _ _ => rfl) layers {}
  have hbudget := foldl_after_last Settings.sampleBudget
    (fun layer => (Value.lookup? Key.sampleBudget.name layer).bind Value.count?)
    (fun _ _ => rfl) layers {}
  have hoverflow := foldl_after_last Settings.overflow
    (fun layer => (Value.lookup? Key.overflow.name layer).bind fun v => Overflow.ofName? v.text)
    (fun _ _ => rfl) layers {}
  have hseed := foldl_after_last Settings.sampleSeed
    (fun layer => (Value.lookup? Key.sampleSeed.name layer).map fun v => v.seed?.join)
    (fun _ _ => rfl) layers {}
  have hrenderer := foldl_after_last Settings.renderer
    (fun layer => (Value.lookup? Key.renderer.name layer).bind fun v => some v.runes)
    (fun _ _ => rfl) layers {}
  rw [getLast?_filterMap_map, ← lastValid_eq] at hcap
  rw [getLast?_filterMap_map] at hseed
  rw [← lastValid_eq] at hhistory hbudget hoverflow hrenderer
  have hcount : ∀ o : Option Nat, (o.map Int.ofNat).getD 4096 = (o.getD 4096 : Nat) := by
    rintro (_ | n) <;> rfl
  have hlast : ∀ o : Option Value, (o.map fun v => v.seed?.join).getD none =
      (o.bind Value.seed?).join := by
    rintro (_ | v) <;> rfl
  generalize layers.foldl after {} = s at *
  obtain ⟨history, cap, budget, overflow, seed, renderer⟩ := s
  dsimp only at *
  rw [hhistory, hcap, hbudget, hoverflow, hseed, hrenderer, hcount, hlast]
  rfl

/-- The last seed there is and the last valid one are the same if the last one is valid, or if there
is no seed anyway. -/
theorem last_seed_iff (vs : List Value) :
    (vs.getLast?.bind Value.seed?).join = ((vs.filterMap Value.seed?).getLast?).getD none ↔
      (∀ v, vs.getLast? = some v → Key.sampleSeed.accepts v = true) ∨
        ((vs.filterMap Value.seed?).getLast?).getD none = none := by
  rcases List.eq_nil_or_concat vs with rfl | ⟨vs, v, rfl⟩
  · exact iff_of_true rfl (.inr rfl)
  · rw [List.concat_eq_append, List.getLast?_concat, List.filterMap_append, Option.bind_some]
    have haccepts : Key.sampleSeed.accepts v = v.seed?.isSome := rfl
    cases hv : v.seed? with
    | some seed =>
      rw [List.filterMap_cons_some hv, List.filterMap_nil, List.getLast?_concat]
      refine iff_of_true rfl (.inl fun w hw => ?_)
      rw [← Option.some.inj hw, haccepts, hv, Option.isSome_some]
    | none =>
      rw [List.filterMap_cons_none hv, List.filterMap_nil, List.append_nil, Option.join_none,
        eq_comm]
      refine (or_iff_right fun hall => ?_).symm
      have := hall v rfl
      rw [haccepts, hv] at this
      cases this

/-- **Settings are what the last valid entries say.** Where all layers can be gone through, each
setting but the seed has its last valid entry, or the usual value if there is none; an invalid
entry changes nothing, except that it takes the seed away. So the seed is right as well exactly if
the last entry for it is valid, or if the last valid entry gives none. -/
theorem addLayers_settings {layers : List Layer} {r : Report}
    (h : Report.addLayers stack (.start, none) layers = (r, none)) :
    r.settings = { resolved layers with sampleSeed := lastSeed layers } ∧
      (r.settings = resolved layers ↔
        (∀ v, (entries .sampleSeed layers).getLast? = some v → Key.sampleSeed.accepts v = true) ∨
          (resolved layers).sampleSeed = none) ∧
      ∀ (r₁ r₂ : Report) (k : Key) (v : Value), r₁.enter stack k v = .ok r₂ → k.accepts v = false →
        r₂.settings =
          if k = .sampleSeed then { r₁.settings with sampleSeed := none } else r₁.settings := by
  have hall : r.settings = { resolved layers with sampleSeed := lastSeed layers } :=
    (Report.addLayers_ok h).trans (foldl_after layers)
  refine ⟨hall, ?_, fun r₁ r₂ k v he hv => Report.enter_invalid he hv⟩
  have hiff : r.settings = resolved layers ↔ lastSeed layers = (resolved layers).sampleSeed := by
    rw [hall]
    constructor
    · intro he
      exact congrArg Settings.sampleSeed he
    · intro he
      rw [he]
  exact hiff.trans (last_seed_iff _)

/-- A text with blanks, a number below nought, a truth value and empty values, over two layers. -/
theorem addLayers_settings_mixed :
    let layers : List Layer :=
      [[(.string "history_limit".toList, .string " 1_0 ".toList),
          (.string "sample_seed".toList, .int 5),
          (.string "overflow".toList, .string "sample".toList)],
        [(.string "history_limit".toList, .int (-1)), (.string "sample_budget".toList, .bool true),
          (.string "overflow".toList, .null), (.string "sample_seed".toList, .null)]]
    ∃ r, Report.addLayers .usual (.start, none) layers = (r, none) ∧
      r.settings = resolved layers ∧ r.settings.historyLimit = 10 ∧ r.settings.overflow = .sample ∧
      r.settings.sampleBudget = 1 ∧ r.settings.sampleSeed = none := by
  intro layers
  have hadded := Report.Progress.eq_of_clear (p := Report.addLayers .usual (.start, none) layers)
    (by decide +kernel)
  obtain ⟨-, hiff, -⟩ := addLayers_settings hadded
  have hsettings := hiff.2 (.inr (by decide +kernel))
  exact ⟨_, hadded, hsettings, by decide +kernel, by decide +kernel, by decide +kernel,
    by decide +kernel⟩

/-- A senseless seed takes a good one away. -/
theorem not_addLayers_resolved :
    ¬ ∀ (layers : List Layer) (r : Report),
      Report.addLayers .usual (.start, none) layers = (r, none) → r.settings = resolved layers := by
  intro h
  let layers : List Layer := [[(.string "sample_seed".toList, .int 5)],
    [(.string "sample_seed".toList, .string ['x'])]]
  have hadded := Report.Progress.eq_of_clear (p := Report.addLayers .usual (.start, none) layers)
    (by decide +kernel)
  exact absurd (h layers _ hadded) (by decide +kernel)

end Settings

end CitationStudio
