import CitationStudio.Lab.Basic
import CitationStudio.Stack

/-! The settings of the program, and layers of them. A layer is a map from names to values. Each
value that makes sense for its setting replaces it; one that does not is passed over with a
warning, except that a senseless seed still takes the old seed away. -/

namespace CitationStudio

structure Settings where
  historyLimit : Nat := 100
  maxCombinations : Int := 4096
  sampleBudget : Nat := 256
  overflow : Overflow := .refuse
  sampleSeed : Option Nat := none
  renderer : Runes := .ofText "bracket".toList
  deriving Repr, DecidableEq, Inhabited

/-- What is said about a layer. -/
inductive Warning where
  | notInteger (name : Text) (v : Value)
  | negative (name : Text) (v : Value)
  | unknownOverflow (v : Value)
  | unreadable (path : Text)
  deriving Repr, BEq, Inhabited

def Warning.message : Warning → Text
  | notInteger name v => "Ignoring non-integer ".toList ++ name ++ '=' :: v.shown
  | negative name v => "Ignoring negative ".toList ++ name ++ '=' :: v.shown
  | unknownOverflow v => "Ignoring unknown overflow mode ".toList ++ v.quotedText
  | unreadable path => "Ignoring unreadable config ".toList ++ path

/-- What stops the settings where a value does not only make no sense. -/
inductive Obstacle where
  /-- An infinite number stands where a whole one is due. -/
  | infinite
  /-- A number that has to be written is too long for it. -/
  | unwritable
  /-- A value has to be written, and the stack does not suffice. -/
  | exhausted
  deriving Repr, DecidableEq, Inhabited

def Obstacle.message : Obstacle → Text
  | infinite => "cannot convert float infinity to integer".toList
  | unwritable => Numeral.unwritableMessage
  | exhausted => Stack.complaint

/-- The whole number that a value stands for, if there is one. A fraction is cut off. -/
def Value.whole? : Value → Except Obstacle (Option Int)
  | int n => .ok (some n)
  | bool b => .ok (some (if b then 1 else 0))
  | float (.infinite _) => .error .infinite
  | float x => .ok x.truncate?
  | string t => .ok (Numeral.int? t)
  | octets bs => .ok (if bs.all (· < 128) then Numeral.int? (bs.map (Char.ofNat ·.toNat)) else none)
  | _ => .ok none

/-- What is in the way of writing a value, if the stack reaches so far or does not. -/
def Value.writing? (v : Value) (reached : Bool) : Option Obstacle :=
  if !reached then some .exhausted else if v.isWritable then none else some .unwritable

namespace Settings

/-- Can the numbers of settings be written? The cap is looked at only if it is given. -/
def isWritable (s : Settings) (capped : Bool) : Bool :=
  Numeral.isWritable s.historyLimit && Numeral.isWritable s.sampleBudget &&
    (s.sampleSeed.all fun n => Numeral.isWritable n) &&
    (!capped || Numeral.isWritable s.maxCombinations)

inductive Key where
  | historyLimit | maxCombinations | sampleBudget | overflow | sampleSeed | renderer
  deriving Repr, DecidableEq, Inhabited

namespace Key

def name : Key → Text
  | historyLimit => "history_limit".toList
  | maxCombinations => "max_combinations".toList
  | sampleBudget => "sample_budget".toList
  | overflow => "overflow".toList
  | sampleSeed => "sample_seed".toList
  | renderer => "renderer".toList

/-- All keys, in the order in which a layer is gone through. -/
def all : List Key :=
  [historyLimit, maxCombinations, sampleBudget, overflow, sampleSeed, renderer]

end Key

/-- No count, but a warning that shows a value. -/
def warned (stack : Stack) (v : Value) (w : Warning) : Except Obstacle (Except Warning Nat) :=
  match v.writing? (stack.warning v) with
  | some e => .error e
  | none => .ok (.error w)

/-- A count that a value gives, or what is said about it. -/
def count (stack : Stack) (name : Text) (v : Value) : Except Obstacle (Except Warning Nat) :=
  match v.whole? with
  | .error e => .error e
  | .ok none => warned stack v (.notInteger name v)
  | .ok (some n) => if 0 ≤ n then .ok (.ok n.toNat) else warned stack v (.negative name v)

structure Report where
  settings : Settings
  warnings : List Warning
  deriving Repr, BEq, Inhabited

namespace Report

def start : Report := ⟨{}, []⟩

def warn (r : Report) (w : Warning) : Report := { r with warnings := r.warnings ++ [w] }

def setCount (stack : Stack) (r : Report) (name : Text) (v : Value) (set : Nat → Settings) :
    Except Obstacle Report :=
  match count stack name v with
  | .error e => .error e
  | .ok (.ok n) => .ok { r with settings := set n }
  | .ok (.error w) => .ok (r.warn w)

def enter (stack : Stack) (r : Report) (k : Key) (v : Value) : Except Obstacle Report :=
  let s := r.settings
  match k with
  | .historyLimit => r.setCount stack k.name v fun n => { s with historyLimit := n }
  | .maxCombinations => r.setCount stack k.name v fun n => { s with maxCombinations := n }
  | .sampleBudget => r.setCount stack k.name v fun n => { s with sampleBudget := n }
  | .overflow =>
    match v.writing? (stack.text v), Overflow.ofName? v.text with
    | some e, _ => .error e
    | none, some mode => .ok { r with settings := { s with overflow := mode } }
    | none, none => .ok (r.warn (.unknownOverflow v))
  | .sampleSeed =>
    let seedless : Report := { r with settings := { s with sampleSeed := none } }
    match v with
    | .null => .ok seedless
    | v => seedless.setCount stack k.name v fun n => { s with sampleSeed := some n }
  | .renderer =>
    match v.writing? (stack.text v) with
    | some e => .error e
    | none => .ok { r with settings := { s with renderer := v.runes } }

/-- A report that may have stopped at a value that cannot be got past. -/
abbrev Progress := Report × Option Obstacle

def step (stack : Stack) (layer : List (Value × Value)) (p : Progress) (k : Key) : Progress :=
  match p, Value.lookup? k.name layer with
  | (r, none), some v =>
    match r.enter stack k v with
    | .ok r' => (r', none)
    | .error e => (r, some e)
  | p, _ => p

def addLayer (stack : Stack) (p : Progress) (layer : List (Value × Value)) : Progress :=
  Key.all.foldl (step stack layer) p

def addLayers (stack : Stack) (p : Progress) (layers : List (List (Value × Value))) : Progress :=
  layers.foldl (addLayer stack) p

end Report

end Settings

end CitationStudio
