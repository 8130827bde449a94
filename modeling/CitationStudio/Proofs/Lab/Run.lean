import CitationStudio.Lab.Follower
import CitationStudio.Proofs.Lab.Following
import CitationStudio.Proofs.Lab.Rows

/-! # What a lab shows after any history

Whatever happens to a lab, alone or on a feed, its mask has a place for every argument (`Masked`),
and so its rows are those of its selected arguments: all of them up to the cap, and beyond the cap
a refusal or a sample. A refusal says how many choices there are, so it can be made only as long as
that number can be written: for up to 14284 selected arguments. -/

namespace CitationStudio.Lab

/-! ## Every argument has its place -/

theorem masked_setArguments (l : Lab) (names : List Text) : (l.setArguments names).Masked :=
  l.setArguments_mask_length names

theorem masked_follow (l : Lab) (n : Notice) : (l.follow n).Masked :=
  l.setArguments_mask_length n.names

theorem Masked.toggle {l l' : Lab} (h : l.Masked) {index : Int} (ht : l.toggle? index = some l') :
    l'.Masked := by
  obtain ⟨i, -, rfl⟩ := Option.map_eq_some_iff.1 ht
  exact (List.length_modify ..).trans h

theorem Masked.catchUp {l : Lab} (h : l.Masked) (feed : Feed) (seen : Nat) :
    (l.catchUp feed seen).Masked := by
  unfold Lab.catchUp
  generalize (feed.since seen).filter _ = ns
  induction ns generalizing l with
  | nil => exact h
  | cons n ns ih => exact ih (masked_follow l n)

namespace Follower

inductive Action where
  | write (template : Text)
  | arguments (names : List Text)
  | publish (names : List Text) (template : Text)
  | toggle (index : Int)
  | close

def act (f : Follower) : Action → Follower
  | .write template => { f with lab := { f.lab with template } }
  | .arguments names => { f with lab := f.lab.setArguments names }
  | .publish names template => f.publish names template
  | .toggle index =>
    match f.lab.toggle? index with
    | some lab => { f with lab }
    | none => f
  | .close => f.close

def run (f : Follower) (actions : List Action) : Follower := actions.foldl act f

/-- How a lab begins: by itself, or as a listener. -/
inductive Start : Follower → Prop
  | alone (renderer : Renderer) (cap : Int) (overflow : Overflow) (budget : Int) (feed : Feed) :
      Start ⟨Lab.new renderer cap overflow budget, feed, none⟩
  | attached (renderer : Renderer) (cap : Int) (overflow : Overflow) (budget : Int) (feed : Feed) :
      Start (attach (Lab.new renderer cap overflow budget) feed)

theorem Start.masked {f : Follower} (h : Start f) : f.lab.Masked := by
  cases h with
  | alone => exact rfl
  | attached renderer cap overflow budget feed =>
    exact Masked.catchUp (l := Lab.new renderer cap overflow budget) rfl _ _

theorem act_masked {f : Follower} (h : f.lab.Masked) (a : Action) : (f.act a).lab.Masked := by
  cases a with
  | write template => exact h
  | arguments names => exact masked_setArguments f.lab names
  | publish names template => exact h.catchUp _ _
  | toggle index =>
    unfold act
    dsimp only
    split
    · rename_i lab hlab
      exact h.toggle hlab
    · exact h
  | close =>
    show f.close.lab.Masked
    unfold close
    split <;> exact h

theorem run_masked (actions : List Action) {f : Follower} (h : f.lab.Masked) :
    (f.run actions).lab.Masked := by
  induction actions generalizing f with
  | nil => exact h
  | cons a actions ih => exact ih (act_masked h a)

end Follower

/-! ## What is shown -/

/-- There is something to show: a template, and an argument for it. -/
structure Busy (l : Lab) : Prop where
  template : l.template.isBlank = false
  selected : l.selected ≠ []

theorem Busy.not_idle {l : Lab} (h : l.Busy) :
    ¬(l.template.isBlank = true ∨ l.selected.isEmpty = true) := by
  rintro (hblank | hempty)
  · exact absurd hblank (by rw [h.template]; exact Bool.false_ne_true)
  · exact h.selected (List.isEmpty_iff.1 hempty)

theorem Busy.selection {l : Lab} (h : l.Busy) (hlt : l.cap < l.count) : l.selection =
    match l.overflow with
    | .refuse =>
      if Numeral.isWritable l.count && Numeral.isWritable l.cap then .refused
      else .failed .unwritable
    | .sample =>
      if populationLimit < l.count then .failed .populationTooLarge
      else if min l.budget l.count < 0 then .failed .negativeBudget
      else .sampled (min l.budget l.count).toNat l.count :=
  (if_neg h.not_idle).trans (if_neg (Int.not_le.2 hlt))

theorem Busy.rows_all {l : Lab} (h : l.Busy) (hle : (l.count : Int) ≤ l.cap)
    (draw : Nat → Nat → List Nat) :
    l.rows draw = .ok ((List.range l.count).map fun m => l.row (m + 1)) := by
  rw [rows, Lab.selection, if_neg h.not_idle, if_pos hle]

/-- Where a bound lies between two powers, so it does with one taken away. -/
theorem pow_sub_one_lt_iff {a k bound : Nat} (hbelow : Nat.pow 2 a ≤ bound)
    (habove : bound < Nat.pow 2 (a + 1)) : Nat.pow 2 k - 1 < bound ↔ k ≤ a := by
  constructor
  · intro hlt
    refine Nat.le_of_not_lt fun hk => ?_
    have hpow : Nat.pow 2 (a + 1) ≤ Nat.pow 2 k := Nat.pow_le_pow_right Nat.two_pos hk
    exact Nat.not_lt.2 (Nat.le_sub_one_of_lt (Nat.lt_of_lt_of_le habove hpow)) hlt
  · intro hk
    have hpow : Nat.pow 2 k ≤ Nat.pow 2 a := Nat.pow_le_pow_right Nat.two_pos hk
    have hpos : 0 < Nat.pow 2 k := Nat.pow_pos Nat.two_pos
    omega

theorem isWritable_count (l : Lab) :
    Numeral.isWritable l.count = true ↔ l.selected.length ≤ 14284 := by
  rw [Numeral.isWritable, decide_eq_true_iff, Int.natAbs_natCast]
  exact pow_sub_one_lt_iff (by decide +kernel) (by decide +kernel)

/-- Beyond the cap there is one row that says so, or none if it cannot be written. -/
theorem Busy.rows_refuse {l : Lab} (h : l.Busy) (hlt : l.cap < l.count)
    (ho : l.overflow = .refuse) (draw : Nat → Nat → List Nat) :
    l.rows draw = if l.selected.length ≤ 14284 ∧ Numeral.isWritable l.cap = true
      then .ok [l.refusal] else .error .unwritable := by
  have hwritable : (Numeral.isWritable l.count && Numeral.isWritable l.cap) = true ↔
      l.selected.length ≤ 14284 ∧ Numeral.isWritable l.cap = true := by
    rw [Bool.and_eq_true, isWritable_count]
  rw [rows, h.selection hlt, ho]
  by_cases hw : l.selected.length ≤ 14284 ∧ Numeral.isWritable l.cap = true
  · rw [if_pos hw]
    dsimp only
    rw [if_pos (hwritable.2 hw)]
  · rw [if_neg hw]
    dsimp only
    rw [if_neg fun hc => hw (hwritable.1 hc)]

/-- Beyond the cap a lab that samples shows what is drawn, unless nothing can be. -/
theorem Busy.rows_sampling {l : Lab} (h : l.Busy) (hlt : l.cap < l.count)
    (ho : l.overflow = .sample) (draw : Nat → Nat → List Nat) :
    l.rows draw = if populationLimit < l.count then .error .populationTooLarge
      else if min l.budget l.count < 0 then .error .negativeBudget
      else .ok (((draw l.count (min l.budget l.count).toNat).mergeSort (· ≤ ·)).map l.row) := by
  rw [rows, h.selection hlt, ho]
  dsimp only
  by_cases hlimit : populationLimit < l.count
  · rw [if_pos hlimit, if_pos hlimit]
  · rw [if_neg hlimit, if_neg hlimit]
    by_cases hbudget : min l.budget l.count < 0
    · rw [if_pos hbudget, if_pos hbudget]
    · rw [if_neg hbudget, if_neg hbudget]

theorem Busy.rows_sample {l : Lab} (h : l.Busy) (hlt : l.cap < l.count)
    (ho : l.overflow = .sample) {draw : Nat → Nat → List Nat} {rs : List Row}
    (hr : l.rows draw = .ok rs) :
    0 ≤ min l.budget l.count ∧
      rs = ((draw l.count (min l.budget l.count).toNat).mergeSort (· ≤ ·)).map l.row := by
  rw [h.rows_sampling hlt ho] at hr
  split at hr
  · cases hr
  · split at hr
    · cases hr
    · rename_i hbudget
      exact ⟨Int.not_lt.1 hbudget, (Except.ok.inj hr).symm⟩

/-- Nothing is counted without a template, or without an argument for it. -/
theorem selection_eq_nothing_iff {l : Lab} : l.selection = .nothing ↔ ¬ l.Busy := by
  constructor
  · intro h hbusy
    rw [selection, if_neg hbusy.not_idle] at h
    split at h
    · cases h
    · split at h
      · split at h <;> cases h
      · split at h
        · cases h
        · split at h <;> cases h
  · intro hidle
    refine if_pos (Decidable.byContradiction fun hnot => hidle ⟨?_, fun he => ?_⟩)
    · exact Bool.eq_false_iff.2 fun hblank => hnot (.inl hblank)
    · exact hnot (.inr (List.isEmpty_iff.2 he))

theorem populationLimit_lt_iff {k : Nat} :
    populationLimit < Nat.pow 2 k - 1 ↔ 64 ≤ k := by
  have hfits : Nat.pow 2 k - 1 < populationLimit + 1 ↔ k ≤ 63 :=
    pow_sub_one_lt_iff (by decide) (by decide)
  omega

/-- Rows are too many to draw from exactly if more than 63 arguments are selected, and the lab
samples beyond its cap. -/
theorem rows_population_iff {l : Lab} (draw : Nat → Nat → List Nat) :
    l.rows draw = .error .populationTooLarge ↔ l.Busy ∧ l.overflow = .sample ∧
      64 ≤ l.selected.length ∧ l.cap < l.count := by
  by_cases hbusy : l.Busy
  · rw [and_iff_right hbusy]
    by_cases hlt : l.cap < l.count
    · rw [and_iff_left hlt]
      cases ho : l.overflow with
      | refuse =>
        rw [hbusy.rows_refuse hlt ho]
        refine iff_of_false ?_ nofun
        split <;> exact nofun
      | sample =>
        rw [hbusy.rows_sampling hlt ho, and_iff_right rfl, ← populationLimit_lt_iff, ← count]
        split
        · rename_i hlimit
          exact iff_of_true rfl hlimit
        · rename_i hlimit
          refine iff_of_false ?_ hlimit
          split <;> exact nofun
    · rw [hbusy.rows_all (Int.not_lt.1 hlt)]
      exact iff_of_false nofun fun h => hlt h.2.2
  · rw [rows, selection_eq_nothing_iff.2 hbusy]
    exact iff_of_false nofun fun h => hbusy h.1

namespace Follower

/-- **A lab shows the choices of its selected arguments.** Whatever happened to it, its mask is as
long as its list of arguments. With a template and `k` arguments selected there are `2 ^ k - 1`
choices. If these are within the cap they are all shown, in the order of their numbers, each once.
Beyond the cap a lab that refuses shows one row that says so, as long as at most 14284 arguments
are selected and the cap can be written, and fails otherwise; and a lab that samples, where the
draw succeeds, shows as many choices as were asked for, different ones, in ascending order. -/
theorem run_rows {f : Follower} (h : Start f) (actions : List Action)
    {draw : Nat → Nat → List Nat} (hdraw : Fair draw) :
    let l := (f.run actions).lab
    l.mask.length = l.names.length ∧
      (l.template.isBlank = false → l.selected ≠ [] →
        l.count = Nat.pow 2 l.selected.length - 1 ∧
        ((l.count : Int) ≤ l.cap → ∃ rs, l.rows draw = .ok rs ∧ l.Enumerates rs) ∧
        (l.cap < l.count → l.overflow = .refuse → l.refusal.advisory = true ∧
          l.rows draw = if l.selected.length ≤ 14284 ∧ Numeral.isWritable l.cap = true
            then .ok [l.refusal] else .error .unwritable) ∧
        (l.cap < l.count → l.overflow = .sample → ∀ rs, l.rows draw = .ok rs →
          (rs.length : Int) = min l.budget l.count ∧ ∃ choices, l.Samples choices rs)) := by
  intro l
  have hmasked : l.Masked := run_masked actions h.masked
  refine ⟨hmasked, fun htemplate hselected => ⟨rfl, ?_, ?_, ?_⟩⟩
  · intro hle
    exact ⟨_, Busy.rows_all ⟨htemplate, hselected⟩ hle draw, enumerates_all hmasked⟩
  · intro hlt ho
    exact ⟨rfl, Busy.rows_refuse ⟨htemplate, hselected⟩ hlt ho draw⟩
  · intro hlt ho rs hr
    obtain ⟨hbudget, rfl⟩ := Busy.rows_sample ⟨htemplate, hselected⟩ hlt ho hr
    have hle : (min l.budget l.count).toNat ≤ l.count := by omega
    refine ⟨?_, _, samples_drawn hmasked (hdraw.nodup hle) (hdraw.within hle)⟩
    rw [List.length_map, List.length_mergeSort, hdraw.length hle]
    omega

/-- Two names alike, of which the second is deselected, and a blank one. -/
theorem run_rows_deselected :
    let f := attach (Lab.new .bracket 2 .sample 2) .empty
    let l := (f.run [.publish [['A'], ['A'], [' '], ['B']] "[%s][%s][%s]".toList,
      .toggle (-2)]).lab
    Start f ∧ Fair (sample 7) ∧ l.names = [['A'], ['A'], ['B']] ∧ l.mask = [true, false, true] ∧
      l.count = 3 ∧ ∃ rs, l.rows (sample 7) = .ok rs ∧ rs.length = 2 ∧
        ∃ choices, l.Samples choices rs := by
  intro f l
  have hstart : Start f := .attached ..
  have hselection : l.selection = .sampled 2 3 := by decide +kernel
  have hrows : l.rows (sample 7) = .ok (((sample 7 3 2).mergeSort (· ≤ ·)).map l.row) := by
    rw [rows, hselection]
  obtain ⟨-, hshown⟩ := run_rows hstart [.publish [['A'], ['A'], [' '], ['B']]
    "[%s][%s][%s]".toList, .toggle (-2)] (fair_sample 7)
  obtain ⟨-, -, -, hsampled⟩ := hshown (by decide +kernel) (by decide +kernel)
  obtain ⟨hlength, hsamples⟩ := hsampled (by decide +kernel) rfl _ hrows
  have hmin : min l.budget (l.count : Int) = 2 := by decide +kernel
  exact ⟨hstart, fair_sample 7, by decide +kernel, by decide +kernel, by decide +kernel, _, hrows,
    Int.ofNat.inj (hlength.trans hmin), hsamples⟩

theorem selected_setArguments_new (renderer : Renderer) (cap : Int) (overflow : Overflow)
    (budget : Int) (names : List Text) :
    ((Lab.new renderer cap overflow budget).setArguments names).selected =
      List.range (Lab.arguments names).length := by
  refine List.filter_eq_self.2 fun i hi => ?_
  have hlt : i < (Lab.arguments names).length := List.mem_range.1 hi
  have hmask : ((Lab.new renderer cap overflow budget).setArguments names).mask[i]? =
      some true := by
    show ((List.range (Lab.arguments names).length).map fun i => ([] : List Bool)[i]?.getD true)[i]?
      = _
    rw [List.getElem?_map, List.getElem?_range hlt]
    rfl
  rw [hmask, Option.getD_some]

/-- A new lab with a template and arguments for it. -/
def supplied (overflow : Overflow) (names : List Text) : Lab :=
  { (Lab.new .bracket 4096 overflow 256).setArguments names with template := ['x'] }

theorem length_selected_supplied (overflow : Overflow) {names : List Text}
    (hvisible : ∀ n ∈ names, n.isBlank = false) :
    (supplied overflow names).selected.length = names.length := by
  have hselected : (supplied overflow names).selected =
      List.range (Lab.arguments names).length := selected_setArguments_new ..
  rw [hselected, List.length_range, Lab.arguments_length_iff.2 hvisible]

/-- It is over its cap with 13 arguments or more. -/
theorem busy_supplied (overflow : Overflow) {names : List Text}
    (hvisible : ∀ n ∈ names, n.isBlank = false) (hmany : 13 ≤ names.length) :
    (supplied overflow names).Busy ∧
      (supplied overflow names).cap < (supplied overflow names).count := by
  have hlength := length_selected_supplied overflow hvisible
  constructor
  · refine ⟨rfl, fun he => ?_⟩
    rw [he, List.length_nil] at hlength
    omega
  · have hpow : Nat.pow 2 13 ≤ Nat.pow 2 (supplied overflow names).selected.length :=
      Nat.pow_le_pow_right Nat.two_pos (by omega)
    have htwo : Nat.pow 2 13 = 8192 := rfl
    show (4096 : Int) < (Nat.pow 2 (supplied overflow names).selected.length - 1 : Nat)
    omega

/-- A new lab that refuses has nothing to show for too many arguments. -/
theorem new_unwritable {names : List Text} (hvisible : ∀ n ∈ names, n.isBlank = false)
    (hmany : 14284 < names.length) (draw : Nat → Nat → List Nat) :
    let l := { (Lab.new .bracket 4096 .refuse 256).setArguments names with template := ['x'] }
    l.Busy ∧ l.cap < l.count ∧ l.rows draw = .error .unwritable := by
  intro l
  have hlength : l.selected.length = names.length := length_selected_supplied .refuse hvisible
  obtain ⟨hbusy, hlt⟩ : l.Busy ∧ l.cap < l.count := busy_supplied .refuse hvisible (by omega)
  refine ⟨hbusy, hlt, ?_⟩
  rw [hbusy.rows_refuse hlt rfl, if_neg fun hw => by omega]

/-- With one argument more than that, a refusal cannot be written. -/
theorem not_run_refuses :
    ¬ ∀ (f : Follower) (actions : List Action) (draw : Nat → Nat → List Nat), Start f →
      Fair draw →
      let l := (f.run actions).lab
      l.template.isBlank = false → l.selected ≠ [] → l.cap < l.count → l.overflow = .refuse →
        ∃ r, l.rows draw = .ok [r] ∧ r.advisory = true := by
  intro h
  have hvisible : ∀ n ∈ List.replicate 14285 ['a'], Text.isBlank n = false := by
    intro n hn
    rw [List.eq_of_mem_replicate hn]
    rfl
  obtain ⟨hbusy, hlt, hrows⟩ := new_unwritable hvisible
    (by rw [List.length_replicate]; exact Nat.lt_succ_self _) (sample 0)
  obtain ⟨r, hr, -⟩ := h ⟨Lab.new .bracket 4096 .refuse 256, .empty, none⟩
    [.arguments (List.replicate 14285 ['a']), .write ['x']] (sample 0) (.alone ..) (fair_sample 0)
    hbusy.template hbusy.selected hlt rfl
  exact absurd (hr.symm.trans hrows) nofun

end Follower

end CitationStudio.Lab
