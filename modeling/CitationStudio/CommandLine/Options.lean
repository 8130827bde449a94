import CitationStudio.CommandLine.Flag
import CitationStudio.Files.Path
import CitationStudio.Number.Numeral
import CitationStudio.Render.Given
import CitationStudio.Span

/-! What a command line asks for. Its words are read from left to right; the first word that is
no flag and belongs to none is the text to work on, and there is at most one. A request for help
or a word that does not fit its flag ends the reading at once; words that mean nothing are
reported in the end. Two dashes that are attached to a flag are no word, as they are none elsewhere:
the flag is there and nothing is given for it. -/

namespace CitationStudio.CommandLine

/-- What is asked for. Where a flag takes a word, `none` stands for a flag without one. -/
structure Options where
  text : Option Text := none
  fromInput : Bool := false
  marks : List (Option Span) := []
  compiled : Bool := false
  values : List Render.Given := []
  combos : Bool := false
  names : List (Option Text) := []
  json : Bool := false
  config : Option (Option Path) := none
  renderer : Option Text := none
  maxCombinations : Option (Option Int) := none
  env : Bool := false
  ui : Bool := false
  verbose : Bool := false
  deriving Repr, DecidableEq, Inhabited

inductive Stop where
  | help
  | wrong (e : UsageError)
  deriving Repr, DecidableEq, Inhabited

namespace Options

/-- Two offsets with a colon between them. -/
def span? (t : Text) : Option Span :=
  let start := t.takeWhile (· ≠ ':')
  match t.drop start.length with
  | _ :: stop =>
    match Numeral.int? start, Numeral.int? stop with
    | some a, some b => some ⟨a, b⟩
    | _, _ => none
  | [] => none

def enter (o : Options) : Flag → Except Stop Options
  | .help => .error .help
  | .stdin => .ok { o with fromInput := true }
  | .compiled => .ok { o with compiled := true }
  | .skip => .ok { o with values := o.values ++ [some none] }
  | .combos => .ok { o with combos := true }
  | .env => .ok { o with env := true }
  | .ui => .ok { o with ui := true }
  | .verbose => .ok { o with verbose := true }
  | f => .error (.wrong (.wrong f .missing))

def enterWord (o : Options) (f : Flag) (t : Text) : Except Stop Options :=
  let wrong (p : WordProblem) : Except Stop Options := .error (.wrong (.wrong f p))
  match f with
  | .mark =>
    match span? t with
    | some s => .ok { o with marks := o.marks ++ [some s] }
    | none => wrong (.noSpan t)
  | .value => .ok { o with values := o.values ++ [some (some t)] }
  | .arg => .ok { o with names := o.names ++ [some t] }
  | .format =>
    if t = "text".toList then .ok { o with json := false }
    else if t = "json".toList then .ok { o with json := true }
    else wrong (.noFormat t)
  | .config => .ok { o with config := some (some (Path.ofText t)) }
  | .renderer => .ok { o with renderer := some t }
  | .maxCombinations =>
    match Numeral.int? t with
    | some n => .ok { o with maxCombinations := some (some n) }
    | none => wrong (.noInteger t)
  | _ => wrong (.uncalledFor t)

/-- Enters a flag that takes a word and has none. An output that is not said is text, and no name
of a renderer is the empty one. -/
def enterEmpty (o : Options) : Flag → Options
  | .mark => { o with marks := o.marks ++ [none] }
  | .value => { o with values := o.values ++ [none] }
  | .arg => { o with names := o.names ++ [none] }
  | .format => { o with json := false }
  | .config => { o with config := some none }
  | .renderer => { o with renderer := some [] }
  | .maxCombinations => { o with maxCombinations := some none }
  | _ => o

/-- Enters a flag with what is attached to it. -/
def enterAttached (o : Options) (f : Flag) (t : Text) : Except Stop Options :=
  if t = ['-', '-'] then .ok (o.enterEmpty f) else o.enterWord f t

/-- A flag of one letter with those whose letters are attached to it. Nothing else can be. -/
def cluster (f : Flag) : Text → Except Stop (List Flag)
  | [] => .ok [f]
  | c :: t =>
    match Flag.ofName? ['-', c] with
    | none => .error (.wrong (.wrong f (.uncalledFor (c :: t))))
    | some g => (cluster g t).map (f :: ·)

/-- Options so far, whether the place of the text is taken, and the words that mean nothing. -/
structure Progress where
  options : Options
  taken : Bool
  extras : List Text
  deriving Repr, DecidableEq, Inhabited

namespace Progress

def extra (p : Progress) (ts : List Text) : Progress := { p with extras := p.extras ++ ts }

def setText (p : Progress) (t : Text) : Progress :=
  { p with options := { p.options with text := some t }, taken := true }

end Progress

def plainTexts : List Word → List Text :=
  List.filterMap fun
    | .plain t => some t
    | _ => none

/-- Reads words. Two dashes right behind the text, or in front of it, go with the text. -/
def run (p : Progress) : List Word → Except Stop Progress
  | [] => .ok p
  | .plain t :: ws =>
    if p.taken then run (p.extra [t]) ws
    else match ws with
      | .dashes :: rest => .ok ((p.setText t).extra (plainTexts rest))
      | ws => run (p.setText t) ws
  | .dashes :: ws =>
    if p.taken then .ok (p.extra (['-', '-'] :: plainTexts ws))
    else match plainTexts ws with
      | [] => .ok { p with taken := true }
      | t :: ts => .ok ((p.setText t).extra ts)
  | .unknown t :: ws => run (p.extra [t]) ws
  | .flag f short attached :: ws =>
    match attached with
    | some a =>
      if f.takesWord then
        match p.options.enterAttached f a with
        | .ok o => run { p with options := o } ws
        | .error e => .error e
      else if !short ∨ a.isEmpty then .error (.wrong (.wrong f (.uncalledFor a)))
      else
        match (cluster f a).bind fun fs => fs.foldlM enter p.options with
        | .ok o => run { p with options := o } ws
        | .error e => .error e
    | none =>
      if f.takesWord then
        match ws with
        | .plain t :: ws =>
          match p.options.enterWord f t with
          | .ok o => run { p with options := o } ws
          | .error e => .error e
        | _ => .error (.wrong (.wrong f .missing))
      else
        match p.options.enter f with
        | .ok o => run { p with options := o } ws
        | .error e => .error e

def ofWords (args : List Text) : Except Stop Options :=
  match Word.classifyAll args with
  | .error e => .error (.wrong e)
  | .ok ws =>
    match run ⟨{}, false, []⟩ ws with
    | .error e => .error e
    | .ok p => if p.extras.isEmpty then .ok p.options else .error (.wrong (.unrecognized p.extras))

end Options

end CitationStudio.CommandLine
