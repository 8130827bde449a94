import CitationStudio.Data.Yaml.Content
import CitationStudio.Number.Numeral
import CitationStudio.Text.Utf8

/-! Tags, which say what sort of value a node has, and directives, which say how tags are read. A
tag is written in full, between angle brackets, or as a handle and an end; what a handle stands for
is said by a directive, or is known. -/

namespace CitationStudio.Yaml

inductive Tag where
  | null | bool | int | float | octets | timestamp | orderedMap | pairs | set | text | list | map
  /-- The sort of a key whose value is merged into the map around it. -/
  | merge
  /-- The sort of the equality sign, whose value stands for the map around it. -/
  | standIn
  | other
  deriving Repr, DecidableEq, Inhabited

namespace Tag

/-- What the full names of the known sorts start with. -/
def standard : Text := "tag:yaml.org,2002:".toList

def names : List (Text × Tag) :=
  [("null".toList, null), ("bool".toList, bool), ("int".toList, int), ("float".toList, float),
    ("binary".toList, octets), ("timestamp".toList, timestamp), ("omap".toList, orderedMap),
    ("pairs".toList, pairs), ("set".toList, set), ("str".toList, text), ("seq".toList, list),
    ("map".toList, map), ("merge".toList, merge), ("value".toList, standIn)]

def ofName (t : Text) : Tag :=
  if standard.isPrefixOf t then (names.lookup (t.drop standard.length)).getD other else other

end Tag

/-- A tag as it is written: in full, or with a handle. A tag that is a single mark is said to be in
full. -/
structure WrittenTag where
  handle : Option Text
  ending : Text
  deriving Repr, DecidableEq, Inhabited

/-- The mark that stands for no tag in particular. -/
def plainMark : Text := ['!']

/-- What the handles stand for that no directive names. -/
def knownHandles : List (Text × Text) := [("!".toList, "!".toList), ("!!".toList, Tag.standard)]

/-- The full name of a tag, with the handles that directives name; none if its handle stands for
nothing. -/
def WrittenTag.name? (t : WrittenTag) (handles : List (Text × Text)) : Option Text :=
  match t.handle with
  | none => some t.ending
  | some h => ((handles ++ knownHandles).lookup h).map (· ++ t.ending)

/-- A line that says how a document is read. -/
inductive Directive where
  | version (major : Nat)
  | handle (h start : Text)
  | unknown
  deriving Repr, DecidableEq, Inhabited

def isNameChar (c : Char) : Bool := c.isAlphanum || c = '-' || c = '_'

/-- May a character stand in the full name of a tag? -/
def isUriChar (c : Char) : Bool := c.isAlphanum || "-;/?:@&=+$,_.!~*'()[]%".toList.contains c

def isGapNotTab (c : Char) : Bool := c = ' ' || isBreakOrEnd c

namespace Cursor

/-- The octets written with percent signs and two hexadecimal digits each. -/
def uriOctets : Nat → Cursor → Option (List UInt8 × Cursor)
  | 0, c => some ([], c)
  | n + 1, c =>
    if c.head ≠ '%' then some ([], c)
    else match hexValue? (c.peek 1), hexValue? (c.peek 2) with
      | some a, some b =>
        (uriOctets n (c.skip 3)).map fun (os, c) => (UInt8.ofNat (16 * a + b) :: os, c)
      | _, _ => none

/-- The rest of a name of a tag, percent signs being read as the characters that they spell. -/
def uriFrom : Nat → Cursor → Option (Text × Cursor)
  | 0, c => some ([], c)
  | n + 1, c =>
    if c.head = '%' then
      match uriOctets (n + 1) c with
      | none => none
      | some (octets, c) =>
        (Text.ofOctets? octets).bind fun t => (uriFrom n c).map fun (t', c) => (t ++ t', c)
    else if isUriChar c.head then
      (uriFrom n c.step).map fun (t, c') => (c.head :: t, c')
    else some ([], c)

def uri? (c : Cursor) : Option (Text × Cursor) :=
  if isUriChar c.head then uriFrom (c.rest.length + 1) c else none

/-- A handle: a mark, or a name between two marks. -/
def handle? (c : Cursor) : Option (Text × Cursor) :=
  if c.head ≠ '!' then none
  else if c.peek 1 = ' ' then some (['!'], c.step)
  else
    let (name, after) := c.step.span (!isNameChar ·)
    if after.head = '!' then some ('!' :: name ++ ['!'], after.step) else none

def tag? (c : Cursor) : Option (WrittenTag × Cursor) :=
  let read : Option (WrittenTag × Cursor) :=
    if c.peek 1 = '<' then
      match (c.skip 2).uri? with
      | some (name, c) => if c.head = '>' then some (⟨none, name⟩, c.step) else none
      | none => none
    else if isGapOrEnd (c.peek 1) then some (⟨none, plainMark⟩, c.step)
    else
      let handled :=
        if ((c.step.span isGapNotTab).1).contains '!' then c.handle? else some (['!'], c.step)
      handled.bind fun (h, c) => c.uri?.map fun (t, c) => (⟨some h, t⟩, c)
  read.filter fun (_, c) => isGapNotTab c.head

def versionNumber (c : Cursor) : Except Failure (Nat × Cursor) :=
  let (digits, after) := c.span (!Char.isDigit ·)
  match Numeral.natIn 10 digits with
  | .ok n => .ok (n, after)
  | .error .noNumeral => .error .malformed
  | .error (.tooLong n) => .error (.longNumeral n)

def skipSpaces (c : Cursor) : Cursor := c.skipWhile (· = ' ')

def version (c : Cursor) : Except Failure (Directive × Cursor) :=
  match c.skipSpaces.versionNumber with
  | .error f => .error f
  | .ok (major, c) =>
    if c.head ≠ '.' then .error .malformed
    else match c.step.versionNumber with
      | .error f => .error f
      | .ok (_, c) => if isGapNotTab c.head then .ok (.version major, c) else .error .malformed

/-- A handle, and what it stands for. -/
def handleMeaning (c : Cursor) : Except Failure (Directive × Cursor) :=
  match c.skipSpaces.handle? with
  | none => .error .malformed
  | some (h, c) =>
    if c.head ≠ ' ' then .error .malformed
    else match c.skipSpaces.uri? with
      | none => .error .malformed
      | some (start, c) =>
        if isGapNotTab c.head then .ok (.handle h start, c) else .error .malformed

/-- A directive from behind its percent sign, and the place on its line after it. Nothing but a
comment may follow it there. -/
def directive (c : Cursor) : Except Failure (Directive × Cursor) :=
  let (name, c) := c.span (!isNameChar ·)
  if name.isEmpty ∨ !isGapNotTab c.head then .error .malformed
  else
    let read : Except Failure (Directive × Cursor) :=
      if name = "YAML".toList then c.version
      else if name = "TAG".toList then c.handleMeaning
      else .ok (.unknown, c.skipWhile (!isBreakOrEnd ·))
    match read with
    | .error f => .error f
    | .ok (d, c) =>
      let c := c.skipSpaces
      let c := if c.head = '#' then c.skipWhile (!isBreakOrEnd ·) else c
      if isBreakOrEnd c.head then .ok (d, c.lineBreak.2) else .error .malformed

end Cursor

end CitationStudio.Yaml
