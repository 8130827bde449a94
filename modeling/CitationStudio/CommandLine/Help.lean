import CitationStudio.CommandLine.Flag
import CitationStudio.Text.Wrap

/-! What the program says about itself: how it is called, and what each flag is for. The lines
fit on a terminal of eighty cells; what is said about a flag starts in a column of its own, on
the line of the flag if the flag leaves room for it. -/

namespace CitationStudio.CommandLine

/-- What stands for the word of a flag. -/
def Flag.placeholder? : Flag → Option Text
  | mark => some "START:END".toList
  | value => some "VALUE".toList
  | arg => some "NAME".toList
  | format => some "\x7btext,json\x7d".toList
  | config => some "CONFIG".toList
  | renderer => some "RENDERER".toList
  | maxCombinations => some "MAX_COMBINATIONS".toList
  | _ => none

theorem Flag.takesWord_eq_isSome (f : Flag) : f.takesWord = f.placeholder?.isSome := by
  cases f <;> rfl

def Flag.about : Flag → String
  | help => "show this help message and exit"
  | stdin => "Read the text from stdin"
  | mark => "Mark a span of plain text as an expression (repeatable) and compile"
  | compiled => "Treat the text as a compiled template and parse it into parts"
  | value => "Render the compiled template with this value (repeatable, in order)"
  | skip => "Render with an absent value at this position"
  | combos => "Render every non-empty subset of the --arg values"
  | arg => "Argument name (repeatable); used by --compiled and --combos"
  | format => "Output format: text (default) or json"
  | config => "Path to a .yaml or .json config file"
  | renderer => "Renderer name or dotted class path (default from config: bracket)"
  | maxCombinations => "Largest number of argument subsets rendered in full"
  | env => "Print resolved configuration, then exit"
  | ui => "Launch the interactive screen"
  | verbose => "Log every structural edit"

namespace Help

def lineWidth : Nat := 78

def column : Nat := 24

def indented (n : Nat) (t : Text) : Text := List.replicate n ' ' ++ t

def withPlaceholder (f : Flag) (name : Text) : Text :=
  match f.placeholder? with
  | some p => name ++ ' ' :: p
  | none => name

/-- Words in lines that fit, all but the first line behind a margin. -/
def flow (margin : Nat) (line : Text) : List Text → List Text
  | [] => [line]
  | w :: ws =>
    if line.length + 1 + w.length ≤ lineWidth then flow margin (line ++ ' ' :: w) ws
    else line :: flow margin (indented margin w) ws

def opening : Text := "usage: citecraft".toList

def usage : List Text :=
  let calls := Flag.all.map fun f => '[' :: withPlaceholder f (f.names.headD []) ++ [']']
  flow (opening.length + 1) opening calls ++ [indented (opening.length + 1) "[text]".toList]

def entry (call : Text) (about : String) : List Text :=
  let call := indented 2 call
  let said := (Text.wrap (lineWidth - column) true about.toList).map Text.stripEnd
  match said with
  | first :: rest =>
    if call.length + 2 ≤ column then
      (Text.padEnd column call ++ first) :: rest.map (indented column)
    else call :: said.map (indented column)
  | [] => [call]

def flagEntry (f : Flag) : List Text :=
  entry ((", ".toList).intercalate (f.names.map (withPlaceholder f))) f.about

def lines : List Text :=
  usage ++ [[], "Author, compile and preview citation templates.".toList, [],
    "positional arguments:".toList] ++
    entry "text".toList "Citation text, citation template or compiled template" ++
    [[], "options:".toList] ++ Flag.all.flatMap flagEntry

end Help

end CitationStudio.CommandLine
