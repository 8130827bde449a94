import CitationStudio.Text.Quoted
import CitationStudio.Compiled.Lexeme

/-! Reading the compiled form of a template. At the top level parts stand one after the other,
each optionally followed by a plus; in a group there is a plus between neighbours, one more is
allowed before the closing bracket, and there is at least one part. A blank text has no parts.

The reader goes over the lexemes once, keeping the groups that are still open on a stack. Slots
have no names in the compiled form: they take the names that are given in order, and `Arg1`,
`Arg2`, … by their place where those run out. -/

namespace CitationStudio.Compiled

/-- What is wrong with a text. -/
inductive Problem where
  | unexpected (c : Char)
  | unclosedLiteral
  | unclosedGroup
  | missingJoin
  | emptyGroup
  deriving Repr, DecidableEq, Inhabited

def Problem.message : Problem → Text
  | .unexpected c => "Unexpected ".toList ++ Text.quoted [c]
  | .unclosedLiteral => "Unterminated literal".toList
  | .unclosedGroup => "Unterminated group".toList
  | .missingJoin => "Expected '+' or ']'".toList
  | .emptyGroup => "Empty group".toList

/-- A problem, where the reader stood when it met it, and the text that was read. A literal
that ends in a lone backslash is left one character past the end of the text. -/
structure Fault where
  problem : Problem
  offset : Nat
  source : Text
  deriving Repr, DecidableEq, Inhabited

def Fault.message (f : Fault) : Text :=
  f.problem.message ++ " at offset ".toList ++ Text.ofNat f.offset ++ " in ".toList ++
    f.source.quoted

/-- Where a reader stands: the parts of the innermost open group and of the groups around it,
innermost first and each with its latest part first, and whether a part has just ended. -/
structure Progress where
  outer : List (List Part)
  items : List Part
  ended : Bool
  deriving Inhabited

namespace Progress

def start : Progress := ⟨[], [], false⟩

def push (s : Progress) (p : Part) : Progress := ⟨s.outer, p :: s.items, true⟩

/-- One lexeme, which starts at `pos`. Inside a group only a plus or the closing bracket may
follow a part. -/
def step (s : Progress) (pos : Nat) : Lexeme → Except (Problem × Nat) Progress
  | .plus => if s.ended then .ok ⟨s.outer, s.items, false⟩ else .error (.unexpected '+', pos)
  | .closing =>
    match s.outer with
    | [] => .error (.unexpected ']', pos)
    | before :: outer =>
      if s.items.isEmpty then .error (.emptyGroup, pos + 1)
      else .ok ⟨outer, .group s.items.reverse :: before, true⟩
  | l =>
    if s.ended && !s.outer.isEmpty then .error (.missingJoin, pos)
    else match l with
      | .literal body => .ok (s.push (.literal (Part.unescape body)))
      | .slot => .ok (s.push (.slot []))
      | .opening => .ok ⟨s.items :: s.outer, [], false⟩
      | .unclosed length dangling =>
        .error (.unclosedLiteral, pos + length + if dangling then 1 else 0)
      | .stray c => .error (.unexpected c, pos)
      | .plus => .error (.unexpected '+', pos)
      | .closing => .error (.unexpected ']', pos)

def finish (s : Progress) (pos : Nat) : Except (Problem × Nat) (List Part) :=
  if s.outer.isEmpty then .ok s.items.reverse
  else .error (if s.ended then .missingJoin else .unclosedGroup, pos)

def run (s : Progress) (pos : Nat) : List Lexeme → Except (Problem × Nat) (List Part)
  | [] => s.finish pos
  | l :: ls =>
    match s.step pos l with
    | .ok s' => s'.run (pos + l.width) ls
    | .error e => .error e

end Progress

mutual
/-- Gives the slots of a part new names, and returns the names that are left. A slot for which
there is none keeps its own. -/
def relabel : Part → List Text → Part × List Text
  | .literal t, names => (.literal t, names)
  | .slot n, [] => (.slot n, [])
  | .slot _, n :: names => (.slot n, names)
  | .group ps, names =>
    let (qs, rest) := relabelAll ps names
    (.group qs, rest)

def relabelAll : List Part → List Text → List Part × List Text
  | [], names => ([], names)
  | p :: ps, names =>
    let (q, rest) := relabel p names
    let (qs, rest) := relabelAll ps rest
    (q :: qs, rest)
end

/-- The name of the slot at a place, counted from nought, that no name was given for. -/
def defaultName (place : Nat) : Text := "Arg".toList ++ Text.ofNat (place + 1)

/-- The names of a number of slots: those given, then the default ones. -/
def slotNames (given : List Text) (count : Nat) : List Text :=
  (List.range count).map fun place => given[place]?.getD (defaultName place)

/-- The parts with nameless slots. -/
def skeleton (t : Text) : Except Fault (List Part) :=
  if t.isBlank then .ok []
  else match Progress.start.run 0 (lexemes t) with
    | .ok parts => .ok parts
    | .error (problem, offset) => .error ⟨problem, offset, t⟩

/-- The parts of a compiled template, its slots named in order. -/
def parse (names : List Text) (t : Text) : Except Fault (List Part) :=
  match skeleton t with
  | .ok parts => .ok (relabelAll parts (slotNames names (Part.slotsAll parts).length)).1
  | .error fault => .error fault

theorem slotNames_length (given : List Text) (count : Nat) :
    (slotNames given count).length = count := by
  simp [slotNames]

mutual
theorem relabel_slots (p : Part) (names : List Text) (h : p.slots.length ≤ names.length) :
    (relabel p names).1.slots ++ (relabel p names).2 = names ∧
      (relabel p names).1.slots.length = p.slots.length := by
  cases p with
  | literal t => simp [relabel, Part.slots]
  | slot n =>
    cases names with
    | nil => simp [Part.slots] at h
    | cons n ns => simp [relabel, Part.slots]
  | group ps =>
    simpa [relabel, Part.slots] using relabelAll_slots ps names (by simpa [Part.slots] using h)

theorem relabelAll_slots (ps : List Part) (names : List Text)
    (h : (Part.slotsAll ps).length ≤ names.length) :
    Part.slotsAll (relabelAll ps names).1 ++ (relabelAll ps names).2 = names ∧
      (Part.slotsAll (relabelAll ps names).1).length = (Part.slotsAll ps).length := by
  cases ps with
  | nil => simp [relabelAll, Part.slotsAll]
  | cons p ps =>
    simp only [Part.slotsAll, List.length_append] at h
    obtain ⟨hn, hl⟩ := relabel_slots p names (by omega)
    have hr : (Part.slotsAll ps).length ≤ (relabel p names).2.length := by
      have := congrArg List.length hn
      simp only [List.length_append] at this
      omega
    obtain ⟨hn', hl'⟩ := relabelAll_slots ps (relabel p names).2 hr
    simp only [relabelAll, Part.slotsAll, List.length_append]
    constructor
    · rw [List.append_assoc, hn', hn]
    · omega
end

end CitationStudio.Compiled
