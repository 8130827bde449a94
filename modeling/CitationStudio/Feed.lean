import CitationStudio.Text.Basic

/-! A feed hands the current template, its compiled form with the names of its slots, to those
who listen. Each subscription is a turn of its listener in the order of notices; a listener may
have several. Ending a subscription takes away the first turn its listener has left. -/

namespace CitationStudio

/-- What a listener is told. -/
structure Notice where
  listener : Text
  names : List Text
  template : Text
  deriving Repr, DecidableEq, Inhabited

structure Feed where
  names : List Text
  template : Text
  /-- The listeners whose turns have not been taken away, in order. -/
  turns : List Text
  /-- The listener of every subscription that was ever made, in order. -/
  subscriptions : List Text
  /-- All notices so far, in order. -/
  delivered : List Notice
  deriving Repr, DecidableEq, Inhabited

namespace Feed

def empty : Feed := ⟨[], [], [], [], []⟩

/-- What the feed tells a listener at present. -/
def notice (f : Feed) (listener : Text) : Notice := ⟨listener, f.names, f.template⟩

/-- Takes over new data and tells every listener, once for each turn. -/
def publish (f : Feed) (names : List Text) (template : Text) : Feed :=
  { f with
    names
    template
    delivered := f.delivered ++ f.turns.map fun who => ⟨who, names, template⟩ }

/-- Adds a turn for a listener, who is told the present data at once if `replay` says so. -/
def subscribe (f : Feed) (listener : Text) (replay : Bool) : Feed :=
  { f with
    turns := f.turns ++ [listener]
    subscriptions := f.subscriptions ++ [listener]
    delivered := if replay then f.delivered ++ [f.notice listener] else f.delivered }

def unsubscribe (f : Feed) (number : Nat) : Feed :=
  match f.subscriptions[number]? with
  | some who => { f with turns := f.turns.erase who }
  | none => f

/-- The notices that came after the first so many. -/
def since (f : Feed) (count : Nat) : List Notice := f.delivered.drop count

end Feed

end CitationStudio
