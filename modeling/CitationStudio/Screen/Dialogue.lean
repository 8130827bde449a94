import CitationStudio.CommandLine.Options
import CitationStudio.Screen.Basic
import CitationStudio.Text.Wrap

/-! The screen without a terminal: each line of a dialogue is one step, and what the screen shows
is written out as lines. A line is the name of an action, or one of the words `write`, `select` and
`check` with what belongs to it:

    write tagging [Smith], 2020.
    select tagging 0:7
    check 0 1
    wrap_selection
-/

namespace CitationStudio.Screen

def Area.all : List Area := [.tagging, .marking]

def Area.name : Area → Text
  | .tagging => "tagging".toList
  | .marking => "marking".toList

def Area.ofName? (t : Text) : Option Area := Area.all.find? fun a => a.name = t

def areaText (s : Screen) : Area → Text
  | .tagging => s.taggingText
  | .marking => s.markingText

def headWord (t : Text) : Text × Text :=
  let word := t.takeWhile (· ≠ ' ')
  (word, t.drop (word.length + 1))

def stepOfLine? (s : Screen) (line : Text) : Option Step :=
  let (verb, rest) := headWord line
  let (place, what) := headWord rest
  if verb = "write".toList then (Area.ofName? place).map fun a => .type a what
  else if verb = "select".toList then
    match Area.ofName? place, CommandLine.Options.span? what with
    | some a, some span =>
      let t := s.areaText a
      some (.select a (some (Location.ofOffset t span.start, Location.ofOffset t span.stop)))
    | _, _ => none
  else if verb = "check".toList then ((Text.words rest).mapM Numeral.int?).map .check
  else (Action.ofName? line).map .act

/-- What the screen shows. -/
def shown (s : Screen) : List Text :=
  s.panels.parts ++
    ["Compiled:  ".toList ++ s.tagging.output,
      "Arguments: ".toList ++ (", ".toList).intercalate s.bench.lab.names,
      "Preview:   ".toList ++ s.bench.lab.result,
      "Text:      ".toList ++ s.marking.buffer,
      "Marked:    ".toList ++ s.marking.state.compiled]

/-- What is new on a screen after a step: what was logged, the screens that were opened, and the
panels. -/
def news (before after : Screen) : List Text :=
  (after.log.drop before.log.length).map LogEntry.text ++
    (after.opened.drop before.opened.length).flatten ++ after.shown

/-- One turn of a dialogue: the screen after a line, and the lines that answer it. -/
def turn (s : Screen) (draw : Nat → Nat → List Nat) (line : Text) : Screen × List Text :=
  match s.stepOfLine? line with
  | none => (s, ["Not understood: ".toList ++ line])
  | some x =>
    match s.step draw x with
    | .ok s' => (s', news s s')
    | .error e => (s, [e.message])

example : headWord "write tagging [A]".toList = ("write".toList, "tagging [A]".toList) := by
  decide +kernel

end CitationStudio.Screen
