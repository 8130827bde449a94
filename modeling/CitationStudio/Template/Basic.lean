import CitationStudio.Part.Basic

/-! A template under construction: its parts and a bounded history of what they were before.
Every part that enters a template gets a stamp of its own, and a change is a change of stamps:
a new part in the place of an equal one is a change, and putting the same parts back is none.
The history holds the latest states first; when it is full the oldest is given up. -/

namespace CitationStudio

structure Entry where
  stamp : Nat
  part : Part
  deriving Repr, Inhabited

structure Template where
  entries : List Entry
  history : List (List Entry)
  limit : Option Nat
  nextStamp : Nat
  deriving Repr, Inhabited

namespace Template

/-- A template without parts. Without a limit the history keeps everything, and a negative
limit keeps nothing. -/
def empty (limit : Option Int) : Template := ⟨[], [], limit.map Int.toNat, 0⟩

def parts (t : Template) : List Part := t.entries.map Entry.part

def size (t : Template) : Nat := t.entries.length

def display (t : Template) : Text := Part.displayAll t.parts

def compiled (t : Template) : Text := Part.compiledAll t.parts

def slots (t : Template) : List Text := Part.slotsAll t.parts

def canUndo (t : Template) : Bool := !t.history.isEmpty

/-- The latest states that the limit allows for. -/
def keepLatest (limit : Option Nat) (states : List (List Entry)) : List (List Entry) :=
  match limit with
  | none => states
  | some n => states.take n

def stamps (es : List Entry) : List Nat := es.map Entry.stamp

/-- Puts other entries in place of the present ones. Unless the history is cleared by `reset`,
the present entries are recorded in it if `record` says so; where nothing changes nothing is
recorded. -/
def setEntries (t : Template) (es : List Entry) (record reset : Bool) : Template :=
  if stamps es = stamps t.entries then
    if reset then { t with history := [] } else t
  else if reset then { t with entries := es, history := [] }
  else if record then
    { t with entries := es, history := keepLatest t.limit (t.entries :: t.history) }
  else { t with entries := es }

/-- What a replacement is made of: new parts, and parts that stay the ones they are. -/
inductive Item where
  | new (p : Part)
  | kept (e : Entry)
  deriving Repr, Inhabited

/-- Stamps the new parts, from `next` on. -/
def stamped (next : Nat) : List Item → List Entry × Nat
  | [] => ([], next)
  | .new p :: items =>
    let (es, after) := stamped (next + 1) items
    (⟨next, p⟩ :: es, after)
  | .kept e :: items =>
    let (es, after) := stamped next items
    (e :: es, after)

def replace (t : Template) (items : List Item) (record reset : Bool) : Template :=
  let (es, after) := stamped t.nextStamp items
  { t.setEntries es record reset with nextStamp := after }

/-- The entries as they are, to be kept. -/
def kept (es : List Entry) : List Item := es.map .kept

def add (t : Template) (p : Part) : Template :=
  t.replace (kept t.entries ++ [.new p]) true false

/-- Puts one group in place of the parts from the place `first` to the place `last`. -/
def group (t : Template) (first last : Nat) : Template :=
  let inner := (t.entries.drop first).take (last + 1 - first)
  t.replace (kept (t.entries.take first) ++ .new (.group (inner.map Entry.part)) ::
    kept (t.entries.drop (last + 1))) true false

/-- Goes back to the latest recorded state, if there is one. -/
def undo? (t : Template) : Option Template :=
  match t.history with
  | [] => none
  | es :: older => some { t with entries := es, history := older }

@[simp] theorem setEntries_limit (t : Template) (es : List Entry) (record reset : Bool) :
    (t.setEntries es record reset).limit = t.limit := by
  unfold setEntries
  split
  · split <;> rfl
  · split
    · rfl
    · split <;> rfl

end Template

end CitationStudio
