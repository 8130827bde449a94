import CitationStudio.Surface
import CitationStudio.Fold.Alignment

/-! A marking session: an author marks stretches of a text as expressions, folds finished ones
away, goes on typing, and sends the compiled template on. What cannot be done is refused: the
reason is kept as the session's error, and the text stays as it was. -/

namespace CitationStudio.Marking

inductive Refusal where
  | nothingHighlighted
  | nothingFolded
  | fold (r : Fold.Refusal)
  deriving Repr, DecidableEq, Inhabited

def Refusal.message : Refusal → Text
  | .nothingHighlighted => "Highlight text in the editor before converting.".toList
  | .nothingFolded => "Nothing is folded.".toList
  | .fold r => r.message

/-- What is sent on: the compiled template and a name for each of its slots. -/
structure Sent where
  template : Text
  names : List Text
  deriving Repr, DecidableEq, Inhabited

structure Session (σ : Type) where
  state : FoldedText
  surface : Option σ
  error : Option Refusal

namespace Session

variable {σ : Type}

def buffer (s : Session σ) : Text := s.state.buffer

def plain (s : Session σ) : Text := s.state.document.text

/-- The names of the slots, by their place. -/
def names (s : Session σ) : List Text :=
  (List.range (s.state.document.countP Segment.isExpr)).map fun i =>
    "Arg".toList ++ Text.ofNat (i + 1)

def send (s : Session σ) : Sent := ⟨s.state.compiled, s.names⟩

def refuse (s : Session σ) (r : Refusal) : Session σ × Bool := ({ s with error := some r }, false)

/-- The first of the edits that the text takes, or else why the first of them is refused. -/
def firstEdit (state : FoldedText) : List Edit → Option (Except Fold.Refusal FoldedText)
  | [] => none
  | e :: es =>
    match state.edit e.start e.stop e.inserted with
    | .ok state' => some (.ok state')
    | .error r =>
      match firstEdit state es with
      | some (.ok state') => some (.ok state')
      | _ => some (.error r)

variable [Surface σ]

def present (s : Session σ) : Session σ :=
  { s with surface := Surface.display s.surface s.state.buffer }

def new (surface : Option σ) (seed : Text) : Session σ :=
  present ⟨FoldedText.ofText seed, surface, none⟩

/-- Takes over the text that the surface shows now. The change is a smallest edit, and of those
the rightmost that cuts no token. If there is none, the surface shows the buffer again. -/
def type (s : Session σ) (t : Text) : Session σ × Bool :=
  if t = s.state.buffer then (s, false)
  else match firstEdit s.state (Edit.alignments s.state.buffer t) with
    | some (.ok state) => ({ s with state, error := none }, true)
    | some (.error r) => s.present.refuse (.fold r)
    | none => (s.present, false)

/-- The given selection, or else the one of the surface. -/
def selected (s : Session σ) (given : Option (Int × Int)) : Option (Int × Int) :=
  match given with
  | some p => some p
  | none => s.surface.bind Surface.selection

def onSelection (s : Session σ) (given : Option (Int × Int))
    (act : FoldedText → Int → Int → Except Fold.Refusal FoldedText) : Session σ × Bool :=
  match s.selected given with
  | none => s.refuse .nothingHighlighted
  | some (a, b) =>
    match act s.state (min a b) (max a b) with
    | .ok state => ({ s with state, error := none }, true)
    | .error r => s.refuse (.fold r)

def toExpr (s : Session σ) (given : Option (Int × Int)) : Session σ × Bool :=
  s.onSelection given FoldedText.markExpr

def toLiteral (s : Session σ) (given : Option (Int × Int)) : Session σ × Bool :=
  s.onSelection given FoldedText.markLiteral

def fold (s : Session σ) (given : Option (Int × Int)) : Session σ × Bool :=
  match s.onSelection given FoldedText.fold with
  | (s', true) => (s'.present, true)
  | (s', false) => (s', false)

def unfold (s : Session σ) : Session σ × Bool :=
  if s.state.pieces.isEmpty then s.refuse .nothingFolded
  else (present { s with state := s.state.unfold, error := none }, true)

def clear (s : Session σ) : Session σ := present { s with state := ⟨[], [], []⟩, error := none }

end Session

end CitationStudio.Marking
