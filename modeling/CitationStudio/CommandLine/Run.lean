import CitationStudio.CommandLine.Options
import CitationStudio.CommandLine.Record
import CitationStudio.Citation.Reader
import CitationStudio.Data.Json.Printer
import CitationStudio.Document.Basic
import CitationStudio.Lab.Basic
import CitationStudio.Render.Registry
import CitationStudio.Settings.Sources
import CitationStudio.Text.Markup
import CitationStudio.Text.Table

/-! What the program does with a command line: it loads the settings, finds the text to work on
and marks, renders, combines or parses it, in this order of preference. Everything it says goes
into a run: the records, and how the run ends. How far the stack reaches, what can be imported and
how a sample is drawn is up to the machine that it runs on. -/

namespace CitationStudio.CommandLine

/-- How a sample is drawn, with the seed of the settings if there is one. -/
abbrev Draw := Option Nat → Nat → Nat → List Nat

/-- The machine that the program runs on. -/
structure Machine where
  stack : Stack
  modules : Render.Modules
  draw : Draw

/-- What stops the program where it does not expect it. -/
inductive Crash where
  | loading (e : Settings.LoadError)
  /-- The settings are to come from a file, and no file is given. -/
  | noFile
  /-- A number of the settings is too long to be written. -/
  | unwritable
  /-- The name of the renderer has halves of characters in it, and is to be written. -/
  | broken
  /-- The stack does not suffice. -/
  | exhausted
  | rows (e : Lab.RowsError)
  /-- The choices are to be counted against a cap that is not given. -/
  | noCap
  | renderer (e : Render.ResolveError)
  /-- A renderer that is not the program's own raises something, or what it gives does. -/
  | raised (e : Render.Raised)
  /-- Nothing is given where a text is needed, at this place of a group or of a list. -/
  | stray (place : Nat)
  deriving Repr, DecidableEq, Inhabited

def Crash.message : Crash → Text
  | loading e => e.message
  | noFile => "'list' object has no attribute 'read_text'".toList
  | unwritable => Numeral.unwritableMessage
  | broken => "surrogates not allowed".toList
  | exhausted => Stack.complaint
  | rows e => e.message
  | noCap => "'>' not supported between instances of 'int' and 'list'".toList
  | renderer e => e.message
  | raised e => e.message
  | stray place => Render.strayMessage place

inductive Ending where
  | help (status : Nat)
  | misused (e : UsageError)
  | unloaded (e : Settings.LoadError)
  | failed (message : Text)
  | finished (status : Nat) (output : List Text)
  | screen (seed : Text) (settings : Settings) (capped : Bool)
  | crashed (e : Crash)
  deriving Repr, DecidableEq, Inhabited

structure Run where
  records : List Record
  ending : Ending
  deriving Repr, DecidableEq, Inhabited

namespace Run

/-- A run before which other records were made. -/
def after (records : List Record) (r : Run) : Run := { r with records := records ++ r.records }

def finish (output : List Text) : Run := ⟨[], .finished 0 output⟩

def fail (message : Text) : Run := ⟨[], .failed message⟩

def crash (e : Crash) : Run := ⟨[], .crashed e⟩

/-- Ends with what something foreign raised. -/
def raise (e : Render.Raised) : Run := if e.isExpected then fail e.message else crash (.raised e)

/-- Goes on with something, or ends with what is raised in its place. -/
def andThen {α : Type} (r : Except Render.Raised α) (go : α → Run) : Run :=
  match r with
  | .ok a => go a
  | .error e => raise e

/-- The exit status; a crash has none of its own. -/
def status (r : Run) : Nat :=
  match r.ending with
  | .help n | .finished n _ => n
  | .misused _ => 2
  | .unloaded _ | .failed _ | .crashed _ => 1
  | .screen _ _ _ => 0

def complaint (r : Run) : List Text :=
  match r.ending with
  | .unloaded e => printed ("Error: could not load config: ".toList ++ Markup.seen e.message)
  | .failed message => printed ("Error: ".toList ++ Markup.seen message)
  | _ => []

/-- The lines that are not part of the output. -/
def asides (r : Run) : List Text :=
  r.records.flatMap Record.lines ++ r.complaint.map Text.stripEnd

end Run

/-! ## Output -/

def object (fields : List (String × Value)) : Value :=
  .map (fields.map fun (k, v) => (.string k.toList, v))

def jsonLines (v : Value) : List Text := Text.lines (Json.indented 0 v)

def textValues (ts : List Text) : Value := .list (ts.map .string)

/-- A name, or an empty list where none is given. -/
def nameValue (name : Option Text) : Value := (name.map .string).getD (.list [])

/-- Is a part a slot for which no name is given? -/
def isUnnamed (given : List (Option Text)) : Part → Bool
  | .slot _ => given.head? = some none
  | _ => false

/-- Parts, each with the names that are given for its slots. -/
def withNames : List (Option Text) → List Part → List (Part × List (Option Text))
  | _, [] => []
  | given, p :: ps => (p, given.take p.slots.length) :: withNames (given.drop p.slots.length) ps

def displayValue (p : Part) (given : List (Option Text)) : Value :=
  if isUnnamed given p then .list [] else .string p.display

def partValue (p : Part) (given : List (Option Text)) : Value :=
  object [("kind", .string p.kind.name), ("display", displayValue p given),
    ("compiled", .string p.compiled)]

/-- The names of the slots, in order; none for a slot that is given no name. -/
def slotNames (ps : List Part) (given : List (Option Text)) : List (Option Text) :=
  (Part.slotsAll ps).zipIdx.map fun (name, i) => if given[i]? = some none then none else some name

def partsValue (ps : List Part) (given : List (Option Text)) : Value :=
  object [("parts", .list ((withNames given ps).map fun (p, g) => partValue p g)),
    ("variables", .list ((slotNames ps given).map nameValue)),
    ("compiled", .string (Part.compiledAll ps))]

def partsTable (ps : List Part) (given : List (Option Text)) : Table :=
  { title := "Parts".toList
    columns := [⟨"#".toList, true⟩, ⟨"Kind".toList, false⟩, ⟨"Display".toList, false⟩,
      ⟨"Compiled".toList, false⟩]
    rows := (withNames given ps).zipIdx.map fun ((p, g), i) =>
      [Text.ofNat i, p.kind.name, (displayValue p g).shown, p.compiled] }

/-- A text behind a label on the same line. -/
def labelled (label : String) (t : Text) : List Text :=
  match printed t with
  | [] => [label.toList]
  | l :: ls => (label.toList ++ l) :: ls

def partsLines (ps : List Part) (given : List (Option Text)) : List Text :=
  let names := (", ".toList).intercalate (Part.slotsAll ps)
  let shown := if names.isEmpty then "(none)".toList else Markup.seen names
  (partsTable ps given).drawn screenWidth ++
    printed ("Variables: ".toList ++ shown) ++ labelled "Compiled: " (Part.compiledAll ps)

/-- A row of the lab with its output. -/
def rowValue (r : Lab.Row) (output : Value) : Value :=
  object [("label", .string r.label),
    ("inputs", .list (r.inputs.map fun v => (v.map Value.string).getD .null)),
    ("output", output), ("advisory", .bool r.advisory)]

def rowsTable (count : Nat) (rows : List (Text × Text)) : Table :=
  { title := "Combinations (".toList ++ Text.ofNat count ++ [')']
    columns := [⟨"Arguments".toList, false⟩, ⟨"Output".toList, false⟩]
    rows := rows.map fun (label, output) => [label, output] }

def segmentLines (s : Segment) : List Text :=
  labelled ("  " ++ String.ofList (Text.padEnd 8 s.kind) ++ " ") s.text.quoted

/-! ## Records -/

def said (level : Level) (source : String) (message : Text) : Record :=
  ⟨level, source.toList, message⟩

def warned (w : Warning) : Record := said .warning "citecraft.config" w.message

/-- The cap of the settings in words; a cap that is not given is an empty list. -/
def capShown (s : Settings) (capped : Bool) : Text :=
  if capped then Text.ofInt s.maxCombinations else "[]".toList

def settingsShown (s : Settings) (capped : Bool) : Text :=
  "CiteCraftConfig(history_limit=".toList ++ Text.ofNat s.historyLimit ++
    ", max_combinations=".toList ++ capShown s capped ++
    ", sample_budget=".toList ++ Text.ofNat s.sampleBudget ++
    ", overflow=".toList ++ s.overflow.name.quoted ++
    ", sample_seed=".toList ++ ((s.sampleSeed.map Text.ofNat).getD "None".toList) ++
    ", renderer=".toList ++ s.renderer.quoted ++ [')']

/-- Names that do not go with the slots of a template are noted, unless it is blank. -/
def nameRecords (names : List (Option Text)) (t : Text) (ps : List Part) : List Record :=
  let needed := (Part.slotsAll ps).length
  if t.isBlank ∨ names.isEmpty ∨ names.length = needed then []
  else [said .debug "citecraft.template.tokenizer"
    ("Compiled template has ".toList ++ Text.ofNat needed ++ " placeholders but ".toList ++
      Text.ofNat names.length ++ " names were given".toList)]

/-- Values that no slot takes are noted. -/
def extraRecords (template : Text) (values : List Render.Filling) : List Record :=
  match Compiled.parse [] template with
  | .error _ => []
  | .ok ps =>
    let needed := (Part.slotsAll ps).length
    if values.length ≤ needed then []
    else [said .debug "citecraft.renderers.bracket"
      ("Ignoring ".toList ++ Text.ofNat (values.length - needed) ++ " extra value(s)".toList)]

/-- What is noted while a row is rendered. -/
def rowRecords (l : Lab) (row : Lab.Row) : List Record :=
  if row.advisory then []
  else match l.renderer l.template row.inputs with
    | .ok _ => extraRecords l.template row.inputs
    | .error reason =>
      [said .warning "citecraft.lab"
        ("Renderer failed on ".toList ++ l.template.quoted ++ ": ".toList ++ reason)]

/-- What is noted about the choice of rows. -/
def selectionRecords (l : Lab) : List Record :=
  match l.selection with
  | .refused =>
    [said .info "citecraft.lab" ("Refusing ".toList ++ Text.ofNat l.count ++
      " combinations (cap ".toList ++ Text.ofInt l.cap ++ [')'])]
  | .sampled budget total =>
    [said .info "citecraft.lab" ("Sampling ".toList ++ Text.ofNat budget ++ " of ".toList ++
      Text.ofNat total ++ " combinations".toList)]
  | _ => []

/-! ## Work -/

variable (m : Machine)

/-- Shows parts. Names that are not given make no texts: neither that of a group nor that of the
list of names. -/
def partsRun (o : Options) (ps : List Part) (given : List (Option Text)) : Run :=
  let stray := (Render.strayAll? ps (given.map fun name => name.map some)).or
    (if o.json then none else (slotNames ps given).findIdx? (· == none))
  match stray with
  | some place => .crash (.stray place)
  | none => .finish (if o.json then jsonLines (partsValue ps given) else partsLines ps given)

/-- Splits a text into parts, or reads it as a compiled template. -/
def parseRun (o : Options) (t : Text) : Run :=
  if o.compiled then
    if !m.stack.template t then .crash .exhausted
    else match Compiled.parse (o.names.map fun name => name.getD []) t with
      | .error fault => .fail fault.message
      | .ok ps =>
        let r := if m.stack.parts ps then partsRun o ps o.names else .crash .exhausted
        r.after (nameRecords o.names t ps)
  else partsRun o (Citation.parts t) []

/-- Is a span, in either order, inside a text of the given length? -/
def isInside (length : Nat) (s : Span) : Bool :=
  0 ≤ min s.start s.stop && max s.start s.stop ≤ length

/-- What stops marking at a span, in a text of the given length. -/
def spanStop? (length : Nat) : Option Span → Option Run
  | none => some (.fail "not enough values to unpack (expected 2, got 0)".toList)
  | some s =>
    if isInside length s then none
    else some ⟨[], .finished 1 (printed ("Error: span ".toList ++ Text.ofInt s.start ++ ':' ::
      Text.ofInt s.stop ++ " is outside the text (length ".toList ++ Text.ofNat length ++
      ").".toList))⟩

/-- A marked document, with a name for each of its expressions. -/
def markLines (json : Bool) (d : Document) (names : List Text) : List Text :=
  if json then
    jsonLines (object [
      ("segments", .list (d.map fun s =>
        object [("type", .string s.kind), ("text", .string s.text)])),
      ("compiled", .string d.compiled), ("arg_names", textValues names)])
  else d.flatMap segmentLines ++ labelled "Compiled: " d.compiled

def markRun (o : Options) (t : Text) : Run :=
  match o.marks.findSome? (spanStop? t.length) with
  | some r => r
  | none =>
    let d := Document.ofMarks t (o.marks.filterMap id)
    let names := (List.range (d.countP Segment.isExpr)).map Compiled.defaultName
    .finish (markLines o.json d names)

/-- Goes on with the renderer that the settings name. -/
def withRenderer (s : Settings) (go : Render.Named → Run) : Run :=
  match Render.resolve m.modules s.renderer with
  | .ok n => go n
  | .error e => if e.isExpected then .fail e.message else .crash (.renderer e)

/-- What stops rendering although the template and the number of values are right. -/
def renderStray? (t : Text) (values : List Render.Given) : Option Nat :=
  match Compiled.parse [] t with
  | .error _ => none
  | .ok ps => if values.length < (Part.slotsAll ps).length then none else Render.strayAll? ps values

/-- What is not rendered because of its template or its values. -/
def unrendered (message : Text) : Run :=
  ⟨[], .finished 1 (printed ("Renderer error: ".toList ++ Markup.seen message))⟩

def outputLines (v : Value) : List Text := Text.lines (Json.compact (object [("output", v)]))

def bracketRun (o : Options) (t : Text) : Run :=
  let values := o.values.map Option.join
  if !m.stack.rendering t o.values then .crash .exhausted
  else match renderStray? t o.values, Render.format t values with
    | some place, _ => .crash (.stray place)
    | none, .error e => unrendered e.message
    | none, .ok out =>
      (Run.finish (if o.json then outputLines (.string out) else Text.lines out)).after
        (extraRecords t values)

/-- Lets a foreign renderer render a template with values. -/
def foreignRun (o : Options) (f : Render.Foreign) (t : Text) : Run :=
  match f.format t o.values with
  | .error e => if e.kind = .unrendered then unrendered e.message else .raise e
  | .ok out =>
    if o.json then .andThen out.value fun v => .finish (outputLines v)
    else .andThen out.line fun l => .finish (Text.lines l)

def renderRun (o : Options) (s : Settings) (t : Text) : Run :=
  withRenderer m s fun n =>
    match n with
    | .bracket => bracketRun m o t
    | .foreign f => foreignRun o f t

/-- What a row of the lab has in its place for the output. -/
def rowOutput (n : Render.Named) (t : Text) (row : Lab.Row) : Except Render.Raised Render.Output :=
  match n with
  | .bracket => .ok (.ofText row.output)
  | .foreign f =>
    if row.advisory then .ok (.ofText row.output)
    else match f.preview t row.inputs with
      | .ok out => .ok out
      | .error e => if e.kind = .leaving then .error e else .ok (.ofText row.output)

def showRows (o : Options) (count : Nat) (rows : List (Lab.Row × Render.Output)) : Run :=
  if o.json then
    .andThen (rows.mapM fun (r, out) => out.value.map (rowValue r)) fun vs =>
      .finish (jsonLines (.list vs))
  else if Numeral.isWritable count then
    .andThen (rows.mapM fun (r, out) => out.cell.map ((r.label, ·))) fun cells =>
      .finish ((rowsTable count cells).drawn screenWidth)
  else .fail Numeral.unwritableMessage

def combineRun (o : Options) (s : Settings) (t : Text) : Run :=
  withRenderer m s fun n =>
    let names := o.names.map fun (name : Option Text) => name.getD "[]".toList
    let l := { Lab.new (n.renderer m.stack) s.maxCombinations s.overflow s.sampleBudget with
      template := t }.setArguments names
    if l.selection ≠ .nothing ∧ o.maxCombinations = some none then .crash .noCap
    else match l.rows (m.draw s.sampleSeed) with
      | .error .populationTooLarge => .crash (.rows .populationTooLarge)
      | .error e => .fail e.message
      | .ok rows =>
        let shown : Run := .andThen (rows.mapM fun r => (rowOutput n t r).map ((r, ·)))
          (showRows o l.count)
        shown.after (selectionRecords l ++ rows.flatMap (rowRecords l))

/-- Does with a text what is asked for. -/
def work (o : Options) (s : Settings) (t : Text) : Run :=
  if !o.marks.isEmpty then markRun o t
  else if !o.values.isEmpty then renderRun m o s t
  else if o.combos then combineRun m o s t
  else parseRun m o t

/-- The settings with what the command line says about them. -/
def Options.override (o : Options) (s : Settings) : Settings :=
  let s := match o.renderer with
    | none | some [] => s
    | some name => { s with renderer := .ofText name }
  match o.maxCombinations.join with
  | some n => { s with maxCombinations := n }
  | none => s

/-- Is there a cap? There is none if its flag comes without a word. -/
def Options.isCapped (o : Options) : Bool := o.maxCombinations ≠ some none

/-- The text to work on; none if there is none and no screen to write it on. -/
def Options.subject (o : Options) (input : Text) : Option Text :=
  if o.fromInput then some input
  else match o.text with
    | some t => some t
    | none => if o.ui then some [] else none

/-- What is done once the settings are loaded. Verbose, they are noted first; numbers that cannot be
written count as settings that cannot be loaded then. -/
def afterLoading (o : Options) (s : Settings) (sources : Settings.Sources) (input : Text) : Run :=
  let s := o.override s
  let writable := s.isWritable o.isCapped
  if o.verbose ∧ !writable then ⟨[], .unloaded (.obstacle .unwritable)⟩
  else
    let noted := said .debug "citecraft.app"
      ("Resolved config: ".toList ++ settingsShown s o.isCapped)
    let r : Run :=
      if o.env then
        if !writable then .crash .unwritable
        else if s.renderer.text?.isNone then .crash .broken
        else .finish (printed (Settings.describeWith (capShown s o.isCapped) s sources))
      else match o.subject input with
        | none => ⟨[], .help 1⟩
        | some t => if o.ui then ⟨[], .screen t s o.isCapped⟩ else work m o s t
    if o.verbose then r.after [noted] else r

/-- Runs the program: what is on the disk, where its user's folder and the working folder are, what
stands on its input, and the words of the command line. -/
def run (disk : Disk) (home folder : Path) (input : Text) (args : List Text) : Run :=
  match Options.ofWords args with
  | .error .help => ⟨[], .help 0⟩
  | .error (.wrong e) => ⟨[], .misused e⟩
  | .ok o =>
    let loading := Settings.load m.stack disk home folder o.config.join
    let r : Run := match loading.failure with
      | some e => if e.isExpected then ⟨[], .unloaded e⟩ else .crash (.loading e)
      | none =>
        if o.config = some none then .crash .noFile
        else afterLoading m o loading.report.settings loading.sources input
    let r := r.after (loading.report.warnings.map warned)
    { r with records := r.records.filter (Record.isShown o.verbose) }

end CitationStudio.CommandLine
