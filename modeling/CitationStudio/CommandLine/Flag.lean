import CitationStudio.Text.Quoted
import CitationStudio.Text.Digit

/-! The flags of the command line. A flag is written out, or shortened to a start that no other
flag has. A word that starts with a dash is a flag unless it is a negative number or has a space
in it; after two dashes alone no word is a flag. -/

namespace CitationStudio.CommandLine

inductive Flag where
  | help | stdin | mark | compiled | value | skip | combos | arg | format | config | renderer
  | maxCombinations | env | ui | verbose
  deriving Repr, DecidableEq, Inhabited

namespace Flag

/-- The ways to write a flag. -/
def names : Flag → List Text
  | help => ["-h".toList, "--help".toList]
  | stdin => ["--stdin".toList]
  | mark => ["--mark".toList]
  | compiled => ["--compiled".toList]
  | value => ["--value".toList]
  | skip => ["--skip".toList]
  | combos => ["--combos".toList]
  | arg => ["--arg".toList]
  | format => ["--format".toList]
  | config => ["--config".toList]
  | renderer => ["--renderer".toList]
  | maxCombinations => ["--max-combinations".toList]
  | env => ["--env".toList]
  | ui => ["--ui".toList]
  | verbose => ["-v".toList, "--verbose".toList]

def all : List Flag :=
  [help, stdin, mark, compiled, value, skip, combos, arg, format, config, renderer,
    maxCombinations, env, ui, verbose]

/-- Does a flag come with a word of its own? -/
def takesWord : Flag → Bool
  | mark | value | arg | format | config | renderer | maxCombinations => true
  | _ => false

def label (f : Flag) : Text := (['/'] : Text).intercalate f.names

def spellings : List (Text × Flag) := all.flatMap fun f => f.names.map fun n => (n, f)

def ofName? (t : Text) : Option Flag := spellings.lookup t

end Flag

inductive WordProblem where
  | missing
  | uncalledFor (word : Text)
  | noSpan (word : Text)
  | noInteger (word : Text)
  | noFormat (word : Text)
  deriving Repr, DecidableEq, Inhabited

inductive UsageError where
  | ambiguous (word : Text) (names : List Text)
  | wrong (flag : Flag) (problem : WordProblem)
  | unrecognized (words : List Text)
  deriving Repr, DecidableEq, Inhabited

def WordProblem.message : WordProblem → Text
  | missing => "expected one argument".toList
  | uncalledFor word => "ignored explicit argument ".toList ++ word.quoted
  | noSpan word => "expected START:END, got '".toList ++ word ++ ['\'']
  | noInteger word => "invalid int value: ".toList ++ word.quoted
  | noFormat word =>
    "invalid choice: ".toList ++ word.quoted ++ " (choose from 'text', 'json')".toList

def UsageError.message : UsageError → Text
  | ambiguous word names =>
    "ambiguous option: ".toList ++ word ++ " could match ".toList ++ (", ".toList).intercalate names
  | wrong flag problem => "argument ".toList ++ flag.label ++ ": ".toList ++ problem.message
  | unrecognized words => "unrecognized arguments: ".toList ++ ([' '] : Text).intercalate words

/-- A word of the command line as what it is. A flag may have something attached to it: behind an
equality sign, or, to a `short` one of a single letter, also right behind the letter. -/
inductive Word where
  | plain (t : Text)
  | dashes
  | flag (f : Flag) (short : Bool) (attached : Option Text)
  | unknown (t : Text)
  deriving Repr, DecidableEq, Inhabited

namespace Word

/-- A text before its first equality sign, and what follows the sign if there is one. -/
def splitEqual (t : Text) : Text × Option Text :=
  let before := t.takeWhile (· ≠ '=')
  (before, (t.drop before.length).tail?)

def isDecimal (c : Char) : Bool := (Text.digitValue? c).isSome

/-- A dash and digits, with at most one point, which a digit follows. A line feed at the end does
not count. -/
def isNegative (t : Text) : Bool :=
  let t := if t.getLast? = some '\n' then t.dropLast else t
  match t with
  | '-' :: r =>
    let whole := r.takeWhile isDecimal
    match r.drop whole.length with
    | [] => !whole.isEmpty
    | '.' :: ds => !ds.isEmpty && ds.all isDecimal
    | _ => false
  | _ => false

/-- The flags that a word may be short for, each with the name it is short for and what is attached
to it. -/
def candidates (t : Text) : List (Text × Word) :=
  match t with
  | '-' :: '-' :: _ =>
    let (start, attached) := splitEqual t
    (Flag.spellings.filter fun s => start.isPrefixOf s.1).map fun s =>
      (s.1, .flag s.2 false attached)
  | _ =>
    Flag.spellings.filterMap fun s =>
      if s.1 = t.take 2 then some (s.1, .flag s.2 true (some (t.drop 2)))
      else if t.isPrefixOf s.1 then some (s.1, .flag s.2 false none)
      else none

/-- What a word is; two dashes are seen to before. -/
def classify (t : Text) : Except UsageError Word :=
  match t with
  | '-' :: _ :: _ =>
    match Flag.ofName? t with
    | some f => .ok (.flag f false none)
    | none =>
      let (start, attached) := splitEqual t
      match attached.bind fun a => (Flag.ofName? start).map fun f => (f, a) with
      | some (f, a) => .ok (.flag f (start[1]? ≠ some '-') (some a))
      | none =>
        match candidates t with
        | [(_, w)] => .ok w
        | [] => .ok (if isNegative t ∨ ' ' ∈ t then .plain t else .unknown t)
        | cs => .error (.ambiguous t (cs.map Prod.fst))
  | _ => .ok (.plain t)

def classifyAll : List Text → Except UsageError (List Word)
  | [] => .ok []
  | t :: ts =>
    if t = ['-', '-'] then .ok (.dashes :: ts.map .plain)
    else
      match classify t with
      | .error e => .error e
      | .ok w => (classifyAll ts).map (w :: ·)

end Word

end CitationStudio.CommandLine
