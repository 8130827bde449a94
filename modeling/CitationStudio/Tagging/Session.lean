import CitationStudio.Citation.Reader
import CitationStudio.Template.Wrap
import CitationStudio.Surface
import CitationStudio.Feed
import CitationStudio.Tagging.Picks
import CitationStudio.Tagging.Cut

/-! A tagging session: an author types a citation, makes literals and slots of stretches of it,
picks neighbouring parts and wraps them into groups. Every change is published on the session's
feed. What cannot be done is refused: the reason is kept as the session's error, and all else
stays as it was. -/

namespace CitationStudio.Tagging

inductive Refusal where
  | nothingHighlighted
  | nothingSelected
  | noInput
  | outOfBounds
  | notLiteral
  | noOverlap
  | wrap (e : Template.WrapError)
  | nothingToCopy
  | noClipboard
  | clipboardFailed
  deriving Repr, DecidableEq, Inhabited

def Refusal.message : Refusal → Text
  | .nothingHighlighted => "Highlight text in the editor above before converting.".toList
  | .nothingSelected => "Please select at least one character.".toList
  | .noInput => "Type a citation above before tagging parts.".toList
  | .outOfBounds => "Selection is out of bounds.".toList
  | .notLiteral =>
    "Selection can only include literal text. Adjust your highlight and try again.".toList
  | .noOverlap => "Selection must overlap literal text.".toList
  | .wrap e => e.message
  | .nothingToCopy => "Nothing to copy yet.".toList
  | .noClipboard => "Clipboard not available.".toList
  | .clipboardFailed => "Failed to copy to clipboard. Please try again.".toList

inductive Clipboard where
  | works | missing | fails
  deriving Repr, DecidableEq, Inhabited

structure Session (σ : Type) where
  template : Template
  surface : Option σ
  feed : Feed
  input : Text
  picks : Picks
  error : Option Refusal
  locked : Bool

namespace Session

variable {σ : Type}

def output (s : Session σ) : Text := s.template.compiled

def publish (s : Session σ) : Session σ :=
  { s with feed := s.feed.publish s.template.slots s.template.compiled }

/-- After a change nothing is picked, there is no error, and the feed is told. -/
def settle (s : Session σ) : Session σ := publish { s with picks := [], error := none }

def new (surface : Option σ) (feed : Feed) (limit : Option Int) : Session σ :=
  publish ⟨Template.empty limit, surface, feed, [], [], none, false⟩

def refuse (s : Session σ) (r : Refusal) : Session σ × Bool := ({ s with error := some r }, false)

/-- Makes a typed text the one literal of the template, and forgets the history. A blank text
leaves no part. -/
def apply (s : Session σ) (t : Text) : Session σ :=
  let items := if t.isBlank then [] else [.new (.literal t)]
  settle { s with input := t, template := s.template.replace items false true }

/-- Typing is applied unless the input is locked. -/
def type (s : Session σ) (t : Text) : Session σ × Bool :=
  if s.locked then (s, false) else (s.apply t, true)

def toggleLock (s : Session σ) : Session σ := { s with locked := !s.locked }

def pick (s : Session σ) (picks : List Int) : Session σ := { s with picks := Picks.ofList picks }

def togglePick (s : Session σ) (n : Int) : Session σ := { s with picks := s.picks.toggle n }

def clearPicks (s : Session σ) : Session σ := { s with picks := [] }

/-- Wraps the picked parts, if they are two or more in a row. -/
def wrap (s : Session σ) : Session σ × Bool :=
  match s.picks.run? with
  | none => (s, false)
  | some (first, last) =>
    match s.template.wrap first last with
    | .ok template => (settle { s with template }, true)
    | .error e => s.refuse (.wrap e)

def undo (s : Session σ) : Session σ × Bool :=
  match s.template.undo? with
  | some template => (settle { s with template }, true)
  | none => (s, false)

/-- Copies the compiled template: the session, whether it was copied, and what was. -/
def copy (s : Session σ) (c : Clipboard) : Session σ × Bool × Option Text :=
  let refused (r : Refusal) : Session σ × Bool × Option Text :=
    ({ s with error := some r }, false, none)
  if s.output.isEmpty then refused .nothingToCopy
  else match c with
    | .missing => refused .noClipboard
    | .fails => refused .clipboardFailed
    | .works => ({ s with error := none }, true, some s.output)

/-- Makes one part of a sort out of the stretch between two offsets of the input, which may come
in either order. -/
def convertAt (s : Session σ) (sort : Text) (a b : Int) :
    Except UnknownSort (Session σ × Bool) :=
  let start := min a b
  let stop := max a b
  if start = stop then .ok (s.refuse .nothingSelected)
  else if s.input.isEmpty then .ok (s.refuse .noInput)
  else if start < 0 ∨ (s.input.length : Int) < stop then .ok (s.refuse .outOfBounds)
  else match cut sort start.toNat stop.toNat s.template.entries with
    | .error .notLiteral => .ok (s.refuse .notLiteral)
    | .error (.unknownSort e) => .error e
    | .ok (_, false) => .ok (s.refuse .noOverlap)
    | .ok (items, true) =>
      .ok (settle { s with template := s.template.replace items true false }, true)

section

variable [Surface σ]

/-- Reads a citation and makes its parts current, without a history. -/
def load (s : Session σ) (t : Text) : Session σ :=
  let template := s.template.replace ((Citation.parts t).map .new) false true
  let input := template.display
  settle { s with template, input, surface := Surface.display s.surface input }

def stripped (t : Text) : Text := t.filter fun c => c ≠ '[' && c ≠ ']'

/-- Takes the brackets out of the input, unless it is locked or has none. -/
def stripBrackets (s : Session σ) : Session σ :=
  let t := stripped s.input
  if s.locked || t = s.input then s
  else apply { s with surface := Surface.display s.surface t } t

/-- The given selection, or else the one of the surface. -/
def selected (s : Session σ) (given : Option (Int × Int)) : Option (Int × Int) :=
  match given with
  | some p => some p
  | none => s.surface.bind Surface.selection

def convert (s : Session σ) (sort : Text) (given : Option (Int × Int)) :
    Except UnknownSort (Session σ × Bool) :=
  match s.selected given with
  | none => .ok (s.refuse .nothingHighlighted)
  | some (a, b) => s.convertAt sort a b

end

end Session

end CitationStudio.Tagging
