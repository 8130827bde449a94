import CitationStudio.Tagging.Session
import CitationStudio.Proofs.Tagging.Cut

/-! # Runs of a tagging session

An author does one thing after the other, and the surface may change in between. Of all an action
touches, the template and the input are what the laws of a session are about; `Change` lists what
can become of the two in one step, and `Effect` adds that the feed is told of it, so that no law
has to look at the actions again. -/

namespace CitationStudio.Tagging

inductive Action (σ : Type) where
  | type (t : Text)
  | apply (t : Text)
  | load (t : Text)
  | toggleLock
  | stripBrackets
  | convert (sort : Text) (given : Option (Int × Int))
  | togglePick (n : Int)
  | pick (ns : List Int)
  | clearPicks
  | wrap
  | undo
  | copy (c : Clipboard)
  /-- The surface is changed from outside: another selection, another text. -/
  | surface (now : Option σ)

namespace Session

variable {σ : Type}

def typedItems (t : Text) : List Template.Item := if t.isBlank then [] else [.new (.literal t)]

def loadedItems (t : Text) : List Template.Item := (Citation.parts t).map .new

/-- What a step can make of the template and the input of a session. -/
inductive Change (s : Session σ) : Template → Text → Prop
  | same : Change s s.template s.input
  | typed (t : Text) : Change s (s.template.replace (typedItems t) false true) t
  | loaded (t : Text) : Change s (s.template.replace (loadedItems t) false true)
      (s.template.replace (loadedItems t) false true).display
  | converted {sort : Text} {start stop : Nat} {items : List Template.Item} :
      start < stop → stop ≤ s.input.length →
      cut sort start stop s.template.entries = .ok (items, true) →
      Change s (s.template.replace items true false) s.input
  | wrapped {first last : Nat} : first ≤ last → last < s.template.size →
      Change s (s.template.group first last) s.input
  | undone {t : Template} : s.template.undo? = some t → Change s t s.input

/-- What a step does: the template, the input and the feed stay as they are, or there is a change
and the feed is told. -/
inductive Effect (s s' : Session σ) : Prop
  | nothing : s'.template = s.template → s'.input = s.input → s'.feed = s.feed → Effect s s'
  | settled : Change s s'.template s'.input →
      s'.feed = s.feed.publish s'.template.slots s'.output → Effect s s'

theorem Effect.change {s s' : Session σ} (h : Effect s s') : Change s s'.template s'.input := by
  cases h with
  | nothing htemplate hinput _ =>
    rw [htemplate, hinput]
    exact .same
  | settled hchange _ => exact hchange

theorem wrap_effect (s : Session σ) : Effect s s.wrap.1 := by
  unfold wrap
  split
  · exact .nothing rfl rfl rfl
  · split
    · rename_i first last _ _ t ht
      obtain ⟨⟨h1, h2, h3⟩, rfl⟩ := Template.wrap_eq_ok_iff.1 ht
      exact .settled (.wrapped (by omega) (by omega)) rfl
    · exact .nothing rfl rfl rfl

theorem undo_effect (s : Session σ) : Effect s s.undo.1 := by
  unfold undo
  split
  · rename_i t ht
    exact .settled (.undone ht) rfl
  · exact .nothing rfl rfl rfl

theorem copy_effect (s : Session σ) (c : Clipboard) : Effect s (s.copy c).1 := by
  unfold copy
  dsimp only
  split
  · exact .nothing rfl rfl rfl
  · cases c <;> exact .nothing rfl rfl rfl

/-- A conversion is refused, or it cuts the stretch between its offsets out. -/
theorem convertAt_cases {s s' : Session σ} {sort : Text} {a b : Int} {done : Bool}
    (h : s.convertAt sort a b = .ok (s', done)) :
    (done = false ∧ ∃ r, s' = { s with error := some r }) ∨
      (done = true ∧ ∃ items, (min a b).toNat < (max a b).toNat ∧
        (max a b).toNat ≤ s.input.length ∧
        cut sort (min a b).toNat (max a b).toNat s.template.entries = .ok (items, true) ∧
        s' = settle { s with template := s.template.replace items true false }) := by
  unfold convertAt at h
  dsimp only at h
  split at h
  · cases h; exact .inl ⟨rfl, _, rfl⟩
  · split at h
    · cases h; exact .inl ⟨rfl, _, rfl⟩
    · split at h
      · cases h; exact .inl ⟨rfl, _, rfl⟩
      · split at h
        · cases h; exact .inl ⟨rfl, _, rfl⟩
        · cases h
        · cases h; exact .inl ⟨rfl, _, rfl⟩
        · rename_i items hc
          cases h
          exact .inr ⟨rfl, items, by omega, by omega, hc, rfl⟩

theorem convertAt_effect {s s' : Session σ} {sort : Text} {a b : Int} {done : Bool}
    (h : s.convertAt sort a b = .ok (s', done)) : Effect s s' := by
  rcases convertAt_cases h with ⟨-, r, rfl⟩ | ⟨-, items, hlt, hle, hc, rfl⟩
  · exact .nothing rfl rfl rfl
  · exact .settled (.converted hlt hle hc) rfl

variable [Surface σ]

theorem stripBrackets_effect (s : Session σ) : Effect s s.stripBrackets := by
  unfold stripBrackets
  dsimp only
  split
  · exact .nothing rfl rfl rfl
  · exact .settled (.typed _) rfl

theorem convert_effect {s s' : Session σ} {sort : Text} {given : Option (Int × Int)} {done : Bool}
    (h : s.convert sort given = .ok (s', done)) : Effect s s' := by
  unfold convert at h
  split at h
  · cases h; exact .nothing rfl rfl rfl
  · exact convertAt_effect h

/-- The session after an action. A sort that no part can have is an error of the caller, and
nothing changes. -/
def act (s : Session σ) : Action σ → Session σ
  | .type t => (s.type t).1
  | .apply t => s.apply t
  | .load t => s.load t
  | .toggleLock => s.toggleLock
  | .stripBrackets => s.stripBrackets
  | .convert sort given =>
    match s.convert sort given with
    | .ok (s', _) => s'
    | .error _ => s
  | .togglePick n => s.togglePick n
  | .pick ns => s.pick ns
  | .clearPicks => s.clearPicks
  | .wrap => s.wrap.1
  | .undo => s.undo.1
  | .copy c => (s.copy c).1
  | .surface now => { s with surface := now }

def run (s : Session σ) (actions : List (Action σ)) : Session σ := actions.foldl act s

/-- Every action has one of these effects. -/
theorem act_effect (s : Session σ) (a : Action σ) : Effect s (s.act a) := by
  cases a with
  | type t =>
    simp only [act, type]
    split
    · exact .nothing rfl rfl rfl
    · exact .settled (.typed t) rfl
  | apply t => exact .settled (.typed t) rfl
  | load t => exact .settled (.loaded t) rfl
  | stripBrackets => exact stripBrackets_effect s
  | convert sort given =>
    simp only [act]
    split
    · rename_i s' done h
      exact convert_effect h
    · exact .nothing rfl rfl rfl
  | wrap => exact wrap_effect s
  | undo => exact undo_effect s
  | copy c => exact copy_effect s c
  | toggleLock | togglePick _ | pick _ | clearPicks | surface _ => exact .nothing rfl rfl rfl

/-- Every action is one of these changes. -/
theorem act_change (s : Session σ) (a : Action σ) :
    Change s (s.act a).template (s.act a).input := (act_effect s a).change

end Session

end CitationStudio.Tagging
