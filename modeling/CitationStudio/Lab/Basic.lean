import CitationStudio.Feed
import CitationStudio.Number.Numeral
import CitationStudio.Render.Basic

/-! The lab shows what a template makes of its arguments when some of them are missing: one row
for each choice of arguments that is not empty. Each argument is its own value. There are
`2 ^ k - 1` choices of `k` selected arguments; when that is more than the cap, the lab either
refuses with one row that says so, or shows a sample. The row of a refusal names the number of
choices and the cap, so there is none if one of the two is too long to be written. -/

namespace CitationStudio

/-- What renders a template with values, or says why it cannot. -/
abbrev Renderer := Text → List Render.Filling → Except Text Text

/-- The renderer of the compiled form. -/
def Renderer.bracket : Renderer := fun template values =>
  match Render.format template values with
  | .ok t => .ok t
  | .error f => .error f.message

inductive Overflow where
  | refuse | sample
  deriving Repr, DecidableEq, Inhabited

def Overflow.name : Overflow → Text
  | refuse => "refuse".toList
  | sample => "sample".toList

def Overflow.ofName? (t : Text) : Option Overflow :=
  if t = refuse.name then some refuse else if t = sample.name then some sample else none

structure UnknownOverflow where
  word : Text
  deriving Repr, DecidableEq

def UnknownOverflow.message (e : UnknownOverflow) : Text :=
  "Unknown overflow mode: ".toList ++ e.word.quoted

structure Lab where
  renderer : Renderer
  cap : Int
  overflow : Overflow
  budget : Int
  template : Text
  names : List Text
  mask : List Bool
  /-- How many lists of arguments the lab has been given. -/
  revision : Nat

namespace Lab

def new (renderer : Renderer) (cap : Int) (overflow : Overflow) (budget : Int) : Lab :=
  ⟨renderer, cap, overflow, budget, [], [], [], 0⟩

/-- Takes over a list of arguments, without the blank ones. An argument is selected as the one
at its place was, and a place that is new is selected. -/
def setArguments (l : Lab) (names : List Text) : Lab :=
  let names := (names.filter fun n => !n.isBlank).map Text.strip
  { l with
    names
    mask := (List.range names.length).map fun i => l.mask[i]?.getD true
    revision := l.revision + 1 }

def follow (l : Lab) (n : Notice) : Lab :=
  { l.setArguments n.names with template := n.template }

/-- The place that an index means, a negative one counting from the end. -/
def place? (size : Nat) (index : Int) : Option Nat :=
  let i := if index < 0 then index + size else index
  if 0 ≤ i ∧ i < size then some i.toNat else none

def toggle? (l : Lab) (index : Int) : Option Lab :=
  (place? l.mask.length index).map fun i => { l with mask := l.mask.modify i not }

def selected (l : Lab) : List Nat :=
  (List.range l.names.length).filter fun i => l.mask[i]?.getD false

def count (l : Lab) : Nat := Nat.pow 2 l.selected.length - 1

/-- The template with values, a failure of the renderer becoming part of the text. -/
def render (l : Lab) (values : List Render.Filling) : Text :=
  match l.renderer l.template values with
  | .ok t => t
  | .error reason => "Renderer error: ".toList ++ reason

/-- The template with all of its arguments. -/
def result (l : Lab) : Text :=
  if l.template.isBlank then [] else l.render (l.names.map some)

structure Row where
  label : Text
  inputs : List Render.Filling
  output : Text
  advisory : Bool
  deriving Repr, DecidableEq, Inhabited

/-- The row that says there are too many choices. -/
def refusal (l : Lab) : Row :=
  { label := "—".toList
    inputs := []
    output := "Too many combinations selected (".toList ++ Text.ofNat l.count ++
      "). Reduce selection to ≤ ".toList ++ Text.ofInt l.cap ++ ['.']
    advisory := true }

/-- The places that a choice picks from those of the selected arguments: bit `b` of its number
stands for the one at rank `b`. -/
def chosen (places : List Nat) (choice : Nat) : List Nat :=
  (places.zipIdx.filter fun (_, rank) => choice.testBit rank).map Prod.fst

/-- The values of a choice: each chosen argument's own name, and none elsewhere. -/
def inputs (l : Lab) (places : List Nat) : List Render.Filling :=
  l.names.zipIdx.map fun (name, i) => if i ∈ places then some name else none

def row (l : Lab) (choice : Nat) : Row :=
  let places := chosen l.selected choice
  let inputs := l.inputs places
  { label := (", ".toList).intercalate (places.map fun i => l.names[i]?.getD [])
    inputs
    output := l.render inputs
    advisory := false }

/-- Why there are no rows: no sample can be drawn, or the refusal cannot be written. -/
inductive RowsError where
  | populationTooLarge
  | negativeBudget
  | unwritable
  deriving Repr, DecidableEq, Inhabited

def RowsError.message : RowsError → Text
  | .populationTooLarge => "Python int too large to convert to C ssize_t".toList
  | .negativeBudget => "Sample larger than population or is negative".toList
  | .unwritable => Numeral.unwritableMessage

/-- What the lab shows: choices to render, a refusal, or nothing because that fails. -/
inductive Selection where
  | nothing
  | all (total : Nat)
  | refused
  | sampled (budget total : Nat)
  | failed (e : RowsError)
  deriving Repr, DecidableEq, Inhabited

/-- The largest number of choices that a sample can be drawn from. -/
def populationLimit : Nat := Nat.pow 2 63 - 1

def selection (l : Lab) : Selection :=
  if l.template.isBlank ∨ l.selected.isEmpty then .nothing
  else if (l.count : Int) ≤ l.cap then .all l.count
  else match l.overflow with
    | .refuse =>
      if Numeral.isWritable l.count && Numeral.isWritable l.cap then .refused
      else .failed .unwritable
    | .sample =>
      if populationLimit < l.count then .failed .populationTooLarge
      else if min l.budget l.count < 0 then .failed .negativeBudget
      else .sampled (min l.budget l.count).toNat l.count

/-- The rows of the lab. `draw total budget` is the sample: so many different numbers from one
to the total, in any order. -/
def rows (l : Lab) (draw : Nat → Nat → List Nat) : Except RowsError (List Row) :=
  match l.selection with
  | .nothing => .ok []
  | .all total => .ok ((List.range total).map fun m => l.row (m + 1))
  | .refused => .ok [l.refusal]
  | .sampled budget total => .ok (((draw total budget).mergeSort (· ≤ ·)).map l.row)
  | .failed e => .error e

/-- The plainest sample: the first numbers. -/
def firstChoices (_total budget : Nat) : List Nat := (List.range budget).map (· + 1)

theorem setArguments_mask_length (l : Lab) (names : List Text) :
    (l.setArguments names).mask.length = (l.setArguments names).names.length := by
  simp [setArguments]

end Lab

end CitationStudio
