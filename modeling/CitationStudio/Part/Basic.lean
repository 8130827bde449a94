import CitationStudio.Text.Basic

/-! A citation template is made of parts: literal text, slots that a value fills, and groups of
parts that are rendered or dropped as one. A part is shown to an author by its `display` and
handed to a renderer by its `compiled` form:

    literal Smith           \x7bSmith\x7d
    slot Year               [%s]
    group of the two        [\x7bSmith\x7d+[%s]]

The name of a slot is for authors only; the compiled form does not hold it. -/

namespace CitationStudio

inductive Part where
  | literal (text : Text)
  | slot (name : Text)
  | group (children : List Part)
  deriving Repr, Inhabited

/-- Characters with a meaning of their own in the compiled form. -/
def Part.isReserved (c : Char) : Bool :=
  c = '\\' || c = '[' || c = ']' || c = '{' || c = '}'

/-- Reserved characters are preceded by a backslash. -/
def Part.escape : Text → Text
  | [] => []
  | c :: t => if isReserved c then '\\' :: c :: escape t else c :: escape t

/-- Takes away one level of backslashes. A backslash at the very end stays. -/
def Part.unescape : Text → Text
  | '\\' :: c :: t => c :: unescape t
  | c :: t => c :: unescape t
  | [] => []

def Part.slotMark : Text := ['[', '%', 's', ']']

namespace Part

mutual
/-- The text an author sees. -/
def display : Part → Text
  | literal t => t
  | slot n => n
  | group ps => displayAll ps

def displayAll : List Part → Text
  | [] => []
  | p :: ps => p.display ++ displayAll ps
end

mutual
/-- The text a renderer reads. -/
def compiled : Part → Text
  | literal t => '{' :: escape t ++ ['}']
  | slot _ => slotMark
  | group ps => '[' :: compiledJoined ps ++ [']']

def compiledJoined : List Part → Text
  | [] => []
  | [p] => p.compiled
  | p :: q :: ps => p.compiled ++ '+' :: compiledJoined (q :: ps)
end

/-- The compiled form of a whole template: its parts one after the other. -/
def compiledAll : List Part → Text
  | [] => []
  | p :: ps => p.compiled ++ compiledAll ps

mutual
/-- The names of the slots, from left to right. -/
def slots : Part → List Text
  | literal _ => []
  | slot n => [n]
  | group ps => slotsAll ps

def slotsAll : List Part → List Text
  | [] => []
  | p :: ps => p.slots ++ slotsAll ps
end

inductive Kind where
  | literal | slot | group
  deriving Repr, DecidableEq, Inhabited

/-- The word an author knows the sort by. -/
def Kind.name : Kind → Text
  | .literal => "literal".toList
  | .slot => "variable".toList
  | .group => "expression".toList

def kind : Part → Kind
  | literal _ => .literal
  | slot _ => .slot
  | group _ => .group

def isLiteral : Part → Bool
  | literal _ => true
  | _ => false

theorem displayAll_append (ps qs : List Part) :
    displayAll (ps ++ qs) = displayAll ps ++ displayAll qs := by
  induction ps with
  | nil => rfl
  | cons p ps ih => simp [displayAll, ih]

theorem slotsAll_append (ps qs : List Part) :
    slotsAll (ps ++ qs) = slotsAll ps ++ slotsAll qs := by
  induction ps with
  | nil => rfl
  | cons p ps ih => simp [slotsAll, ih]

end Part

end CitationStudio
