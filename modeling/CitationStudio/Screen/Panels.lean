import CitationStudio.Lab.Basic
import CitationStudio.Marking.Session
import CitationStudio.Text.Markup

/-! What the panels of the screen show: the parts of a template, its compiled form, a preview,
and the marked text with its folds. -/

namespace CitationStudio.Screen

def partLabel (place : Nat) (p : Part) : Text :=
  Text.padStart 2 (Text.ofNat place) ++ ' ' :: Text.padEnd 10 p.kind.name ++ p.display.quoted

def partLabels (ps : List Part) : List Text := ps.zipIdx.map fun (p, i) => partLabel i p

/-- A compiled template, or words that there is none. -/
def orElse (t : Text) (other : String) : Text :=
  if t.isEmpty then other.toList else Markup.escape t

/-- The preview of a lab, and what the template makes of its arguments. -/
def previewOf (l : Lab) : Text × Text :=
  if l.template.isEmpty then
    (Markup.tagged "dim italic".toList "Nothing to preview yet — type a citation.".toList, [])
  else
    let names := (", ".toList).intercalate l.names
    let names := if names.isEmpty then "(none)".toList else names
    (Markup.tagged "bold".toList "Template".toList ++ "  ".toList ++ Markup.escape l.template ++
      '\n' :: Markup.tagged "bold".toList "Arguments".toList ++ ' ' :: Markup.escape names ++
      '\n' :: Markup.tagged "bold green".toList (Markup.escape l.result), l.result)

def runsOf (d : Document) : Text :=
  let shown := d.flatMap fun s =>
    '[' :: (if s.isExpr then "bold black on yellow".toList else "dim".toList) ++
      ']' :: Markup.escape s.text ++ "[/]".toList
  if shown.isEmpty then Markup.tagged "dim".toList "(empty)".toList else shown

def foldsOf (f : FoldedText) : Text :=
  (['\n'] : Text).intercalate ((List.range f.pieces.length).map fun n =>
    '#' :: Text.ofNat n ++ " [*] → ".toList ++ Markup.escape ((f.piece? n).getD []))

/-- What the panels were last given. -/
structure Panels where
  parts : List Text := []
  compiled : Text := []
  preview : Text := []
  rendered : Text := []
  runs : Text := []
  folds : Text := []
  marked : Text := []
  deriving Repr, DecidableEq, Inhabited

/-- The lines of a screen with rows of a lab, its title first. -/
def rowsScreen (rows : List Lab.Row) (total : Nat) : List Text :=
  let shown := (rows.filter fun r => !r.advisory).length
  let title := "🧮 Combinations — showing ".toList ++ Text.ofNat shown ++ " of ".toList ++
    Text.ofNat total
  let line (r : Lab.Row) : Text :=
    if r.advisory then Markup.escape r.output
    else Markup.tagged "bold".toList (Markup.escape r.label) ++ "  →  ".toList ++
      Markup.escape r.output
  title :: if rows.isEmpty then [Markup.tagged "dim".toList "No arguments selected.".toList]
    else rows.map line

end CitationStudio.Screen
