import CitationStudio.Settings.Basic
import CitationStudio.Files.Disk
import CitationStudio.Data.Json.Reader
import CitationStudio.Data.Yaml.Reader

/-! Where settings come from: a file of the user, a file of the project, and a file that is asked
for, in that order. The first two may be absent or hold no settings; the file that is asked for
has to be read. The project's file is the nearest one in the folders from the working folder
outward. -/

namespace CitationStudio.Settings

inductive LoadError where
  | obstacle (o : Obstacle)
  | unread (p : Path) (e : ReadError)
  | json (f : Json.Failure)
  | yaml (p : Path) (f : Yaml.Failure)
  /-- The stack does not suffice to read the file. -/
  | exhausted
  deriving Repr, DecidableEq, Inhabited

namespace LoadError

def message : LoadError → Text
  | obstacle o => o.message
  | unread p e => e.message p
  | json .malformed => "malformed JSON".toList
  | json f => f.message
  | yaml p .malformed => "Invalid YAML in ".toList ++ p.text ++ [':']
  | yaml _ f => f.message
  | exhausted => Stack.complaint

/-- Does a caller expect that settings are not loaded for this reason? -/
def isExpected : LoadError → Bool
  | obstacle o => o == .unwritable
  | unread _ _ => true
  | json (.tooDeep _) => false
  | json _ => true
  | yaml _ f => f.kind == .badValue
  | exhausted => false

end LoadError

structure Sources where
  user : Option Path := none
  project : Option Path := none
  asked : Option Path := none
  deriving Repr, DecidableEq, Inhabited

/-- Settings on the way: what was said, where they came from, and why loading stopped. -/
structure Loading where
  report : Report := .start
  sources : Sources := {}
  failure : Option LoadError := none
  deriving Repr, BEq, Inhabited

/-- A layer is a map; anything else is an empty one. -/
def layerOf : Value → List (Value × Value)
  | .map entries => entries
  | _ => []

def isYaml (p : Path) : Bool := p.suffix = ".yaml".toList || p.suffix = ".yml".toList

/-- What a document has for the known keys. -/
def layerOfDocument (d : Yaml.Document) : List (Value × Value) :=
  Key.all.filterMap fun k => (d.entry? k.name).map fun v => (.string k.name, v)

/-- The layer in a text, in the language that the path of its file says. -/
def readLayer (stack : Stack) (p : Path) (t : Text) : Except LoadError (List (Value × Value)) :=
  if isYaml p then
    if !stack.yaml t then .error .exhausted
    else match Yaml.parse t with
      | .ok d => .ok ((d.map layerOfDocument).getD [])
      | .error f => .error (.yaml p f)
  else
    match Json.parse stack.json t with
    | .ok v => .ok (layerOf v)
    | .error f => .error (.json f)

/-- The layer in a file that may be malformed; the other troubles stay. -/
def readLenient (stack : Stack) (p : Path) (c : Content) :
    Except LoadError (Option (List (Value × Value))) :=
  match c.text with
  | .error .undecodable => .error (.unread p .undecodable)
  | .error _ => .ok none
  | .ok t =>
    match Json.parse stack.json t with
    | .ok v => .ok (some (layerOf v))
    | .error .malformed => .ok none
    | .error f => .error (.json f)

namespace Loading

def fail (l : Loading) (e : LoadError) : Loading := { l with failure := some e }

/-- Enters a layer that comes from the given files. -/
def enter (stack : Stack) (l : Loading) (layer : List (Value × Value)) (sources : Sources) :
    Loading :=
  match Report.addLayer stack (l.report, none) layer with
  | (r, none) => { l with report := r, sources }
  | (r, some o) => { l with report := r, failure := some (.obstacle o) }

def enterLenient (stack : Stack) (l : Loading) (disk : Disk) (p : Path) (sources : Sources) :
    Loading :=
  match readLenient stack p (disk p) with
  | .ok (some layer) => l.enter stack layer sources
  | .ok none => { l with report := l.report.warn (.unreadable p.text), sources }
  | .error e => l.fail e

def enterAsked (stack : Stack) (l : Loading) (disk : Disk) (p : Path) : Loading :=
  match (disk p).text with
  | .error e => l.fail (.unread p e)
  | .ok t =>
    match readLayer stack p t with
    | .ok layer => l.enter stack layer { l.sources with asked := some p }
    | .error e => l.fail e

/-- Goes on unless loading has stopped. -/
def andThen (l : Loading) (step : Loading → Loading) : Loading :=
  if l.failure.isSome then l else step l

end Loading

/-- The user's file, from the user's folder. -/
def userFile (home : Path) : Path := (home.child ".citecraft".toList).child "config.json".toList

def projectName : Text := ".citecraft.config.json".toList

/-- How many folders are looked into for the project's file. -/
def projectReach : Nat := 50

/-- Where the project's file may be, the nearest place first. -/
def projectPlaces (folder : Path) : List Path :=
  (folder.normal.outward.take projectReach).map (·.child projectName)

def projectFile? (disk : Disk) (folder : Path) : Option Path :=
  (projectPlaces folder).find? fun p => (disk p).isFile

/-- The settings that hold in a folder, with a file that is asked for. -/
def load (stack : Stack) (disk : Disk) (home folder : Path) (asked : Option Path) : Loading :=
  let user := userFile home
  let withUser : Loading :=
    if (disk user).isFile then Loading.enterLenient stack {} disk user { user := some user }
    else {}
  let withProject := withUser.andThen fun l =>
    match projectFile? disk folder with
    | some p => l.enterLenient stack disk p { l.sources with project := some p }
    | none => l
  withProject.andThen fun l =>
    match asked with
    | some p => l.enterAsked stack disk p
    | none => l

def places (home folder : Path) (asked : Option Path) : List Path :=
  userFile home :: projectPlaces folder ++ asked.toList

theorem projectFile?_congr {disk disk' : Disk} {folder : Path}
    (h : ∀ p ∈ projectPlaces folder, disk p = disk' p) :
    projectFile? disk folder = projectFile? disk' folder := by
  unfold projectFile?
  generalize projectPlaces folder = ps at h
  induction ps with
  | nil => rfl
  | cons p ps ih =>
    simp only [List.find?_cons, h p List.mem_cons_self,
      ih fun q hq => h q (List.mem_cons_of_mem p hq)]

section Congr

variable {stack : Stack} {disk disk' : Disk}

theorem Loading.enterLenient_congr {p : Path} (h : disk p = disk' p) (l : Loading)
    (sources : Sources) :
    l.enterLenient stack disk p sources = l.enterLenient stack disk' p sources := by
  simp only [Loading.enterLenient, h]

theorem Loading.enterAsked_congr {p : Path} (h : disk p = disk' p) (l : Loading) :
    l.enterAsked stack disk p = l.enterAsked stack disk' p := by
  simp only [Loading.enterAsked, h]

/-- Loading depends on what is at its places and on nothing else. -/
theorem load_congr {home folder : Path} {asked : Option Path}
    (h : ∀ p ∈ places home folder asked, disk p = disk' p) :
    load stack disk home folder asked = load stack disk' home folder asked := by
  have hu : disk (userFile home) = disk' (userFile home) := h _ (by simp [places])
  have hp : ∀ p ∈ projectPlaces folder, disk p = disk' p := fun p hp =>
    h p (by simp [places, hp])
  have ha : ∀ p, asked = some p → disk p = disk' p := fun p e => h p (by simp [places, e])
  simp only [load, hu, ← projectFile?_congr hp]
  cases hf : projectFile? disk folder with
  | none =>
    cases asked with
    | none => simp only [Loading.enterLenient_congr hu]
    | some p => simp only [Loading.enterLenient_congr hu, Loading.enterAsked_congr (ha p rfl)]
  | some q =>
    have hq := hp q (List.mem_of_find?_eq_some hf)
    cases asked with
    | none => simp only [Loading.enterLenient_congr hu, Loading.enterLenient_congr hq]
    | some p =>
      simp only [Loading.enterLenient_congr hu, Loading.enterLenient_congr hq,
        Loading.enterAsked_congr (ha p rfl)]

end Congr

/-- The settings of one file, on top of the usual ones. -/
def loadFile (stack : Stack) (disk : Disk) (p : Path) : Loading :=
  Loading.enterAsked stack {} disk p

/-- What the settings are and where they came from, for a reader; `cap` is how the cap is shown. -/
def describeWith (cap : Text) (s : Settings) (sources : Sources) : Text :=
  let place (p : Option Path) (absent : String) : Text := (p.map Path.text).getD absent.toList
  (['\n'] : Text).intercalate
    ["citecraft Environment".toList,
      List.replicate 50 '=',
      [],
      "  Global config:    ".toList ++ place sources.user "(not found)",
      "  Project config:   ".toList ++ place sources.project "(not found)",
      "  Config file:      ".toList ++ place sources.asked "(none)",
      [],
      "  Renderer:         ".toList ++ s.renderer.joined,
      "  History limit:    ".toList ++ Text.ofNat s.historyLimit,
      "  Max combinations: ".toList ++ cap,
      "  Overflow:         ".toList ++ s.overflow.name,
      "  Sample budget:    ".toList ++ Text.ofNat s.sampleBudget,
      "  Sample seed:      ".toList ++ (s.sampleSeed.map Text.ofNat).getD "(random)".toList,
      []]

def describe (s : Settings) (sources : Sources) : Text :=
  describeWith (Text.ofInt s.maxCombinations) s sources

end CitationStudio.Settings
