import CitationStudio.Text.Basic

/-! Paths of files. A path is a list of steps, from the root of all files or from where one is.
Empty steps and steps to the same place are dropped when a path is read, so that a path is
written in one way only. -/

namespace CitationStudio

structure Path where
  /-- What the path starts with: nothing, or the marks of the root. -/
  anchor : Text
  steps : List Text
  deriving Repr, DecidableEq, Inhabited

namespace Path

def pieces : Text → List Text
  | [] => [[]]
  | c :: t =>
    if c = '/' then [] :: pieces t
    else match pieces t with
      | [] => [[c]]
      | p :: ps => (c :: p) :: ps

/-- The root: one slash, or two where there are exactly two. -/
def anchorOf (t : Text) : Text :=
  match (t.takeWhile (· = '/')).length with
  | 0 => []
  | 2 => ['/', '/']
  | _ => ['/']

def ofText (t : Text) : Path :=
  ⟨anchorOf t, (pieces t).filter fun p => p ≠ [] ∧ p ≠ ['.']⟩

def text (p : Path) : Text :=
  if p.anchor.isEmpty ∧ p.steps.isEmpty then ['.']
  else p.anchor ++ (['/'] : Text).intercalate p.steps

def child (p : Path) (step : Text) : Path := { p with steps := p.steps ++ [step] }

def under (p base : Path) : Path :=
  if p.anchor.isEmpty then { base with steps := base.steps ++ p.steps } else p

/-- Steps back are taken. At the root they lead nowhere. -/
def normal (p : Path) : Path :=
  let take (past : List Text) (s : Text) := if s = ['.', '.'] then past.dropLast else past ++ [s]
  { p with steps := p.steps.foldl take [] }

/-- A path and the paths of the folders around it, the innermost first. -/
def outward (p : Path) : List Path :=
  (List.range (p.steps.length + 1)).map fun n =>
    { p with steps := p.steps.take (p.steps.length - n) }

/-- The last dot of the last step with what follows it, unless one side of the dot is empty. -/
def suffix (p : Path) : Text :=
  let name := p.steps.getLast?.getD []
  let ending := (name.reverse.takeWhile (· ≠ '.')).reverse
  if ending.isEmpty ∨ name.length ≤ ending.length + 1 then [] else '.' :: ending

example : (ofText "a//./b/".toList).text = "a/b".toList := by decide +kernel
example : (ofText "x/c.yaml".toList).suffix = ".yaml".toList := by decide +kernel
example : (ofText ".yaml".toList).suffix = [] := by decide +kernel

end Path

end CitationStudio
