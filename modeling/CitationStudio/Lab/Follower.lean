import CitationStudio.Lab.Basic

/-! A lab that listens to a feed. Everything the feed delivers to it sets its arguments and its
template, until it is closed. -/

namespace CitationStudio.Lab

/-- The name a lab listens by. -/
def listenerName : Text := "lab".toList

/-- The lab after what was delivered to it beyond the first so many notices. -/
def catchUp (l : Lab) (feed : Feed) (seen : Nat) : Lab :=
  ((feed.since seen).filter fun n => n.listener = listenerName).foldl follow l

structure Follower where
  lab : Lab
  feed : Feed
  /-- The number of the lab's subscription, until it is ended. -/
  subscription : Option Nat

namespace Follower

/-- A lab that listens to a feed from now on, and is told its present data. -/
def attach (lab : Lab) (feed : Feed) : Follower :=
  let feed' := feed.subscribe listenerName true
  ⟨lab.catchUp feed' feed.delivered.length, feed', some feed.subscriptions.length⟩

def publish (f : Follower) (names : List Text) (template : Text) : Follower :=
  let feed := f.feed.publish names template
  { f with feed, lab := f.lab.catchUp feed f.feed.delivered.length }

def close (f : Follower) : Follower :=
  match f.subscription with
  | some number => { f with feed := f.feed.unsubscribe number, subscription := none }
  | none => f

end Follower

/-- For each of the states a lab goes through, the mask that its list of arguments has in the
end, before the lab is given another list. -/
def settledMasks : List Lab → List (List Bool)
  | [] => []
  | [l] => [l.mask]
  | l :: l' :: ls =>
    match settledMasks (l' :: ls) with
    | m :: ms => (if l.revision = l'.revision then m else l.mask) :: m :: ms
    | [] => [l.mask]

end CitationStudio.Lab
