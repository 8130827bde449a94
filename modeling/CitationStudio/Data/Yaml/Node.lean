import CitationStudio.Data.Yaml.Lexeme
import CitationStudio.Data.Yaml.Scalar

/-! The nodes that a YAML text consists of. A node may stand at several places, even inside
itself, so that nodes refer to each other by number. An alias is the number of the node that it
names. Where a node may be missing there is one of its own, an empty plain scalar. -/

namespace CitationStudio.Yaml

inductive Body where
  | scalar (rs : Runes)
  | list (items : List Nat)
  | map (entries : List (Nat × Nat))
  deriving Repr, DecidableEq, Inhabited

structure Node where
  tag : Tag
  body : Body
  deriving Repr, DecidableEq, Inhabited

namespace Node

/-- The sort of a list or map: the one that its tag names, or the usual one. -/
def collectionTag (usual : Tag) (name : Option Text) : Tag :=
  match name with
  | none => usual
  | some name => if name = plainMark then usual else .ofName name

/-- The sort of a scalar. The mark for no tag in particular lets a quoted text stand for what it
looks like, too. -/
def scalarTag (plain : Bool) (name : Option Text) (rs : Runes) : Tag :=
  match name with
  | none => if plain then Scalar.tagOf rs else .text
  | some name => if name = plainMark then Scalar.tagOf rs else .ofName name

end Node

/-- A document: its nodes, and which one all of it is. -/
structure Graph where
  nodes : Array Node
  root : Nat
  deriving Repr, DecidableEq, Inhabited

/-- The lexemes that are left, the nodes so far, those that have been named, and what the handles
of tags stand for. -/
structure Draft where
  lexemes : List Lexeme
  nodes : Array Node := #[]
  anchors : List (Text × Nat) := []
  handles : List (Text × Text) := []
  deriving Inhabited

abbrev Drafting := StateT Draft (Except Failure)

namespace Drafting

/-- The next lexeme, if there is one. A fault in the text stops whoever comes upon it. -/
def peek : Drafting (Option Lexeme) := do
  match (← get).lexemes with
  | .fault f :: _ => throw f
  | l :: _ => return some l
  | [] => return none

def drop : Drafting Unit := modify fun d => { d with lexemes := d.lexemes.drop 1 }

/-- Is the next lexeme one of these? -/
def isAt (ls : List Lexeme) : Drafting Bool := do return (← peek).any (ls.contains ·)

/-- The full name that a tag stands for here. -/
def fullName (t : WrittenTag) : Drafting Text := do
  match t.name? (← get).handles with
  | some name => return name
  | none => throw .malformed

/-- What stands before a node: its anchor and its tag, at most one of each, in either order. -/
def labels : Drafting (Option Text × Option Text) := do
  match ← peek with
  | some (.anchor a) =>
    drop
    match ← peek with
    | some (.tag t) =>
      drop
      return (some a, some (← fullName t))
    | _ => return (some a, none)
  | some (.tag t) =>
    drop
    match ← peek with
    | some (.anchor a) =>
      drop
      return (some a, some (← fullName t))
    | _ => return (none, some (← fullName t))
  | _ => return (none, none)

/-- Makes room for a node. Its name, which is given once, stands for it from here on. -/
def reserve (anchor : Option Text) : Drafting Nat := do
  let d ← get
  let id := d.nodes.size
  let anchors ← match anchor with
    | none => pure d.anchors
    | some a =>
      if (d.anchors.lookup a).isSome then throw .malformed else pure ((a, id) :: d.anchors)
  set { d with nodes := d.nodes.push default, anchors }
  return id

def settle (id : Nat) (tag : Tag) (body : Body) : Drafting Nat := do
  modify fun d => { d with nodes := d.nodes.setIfInBounds id ⟨tag, body⟩ }
  return id

def empty : Drafting Nat := do settle (← reserve none) (Scalar.tagOf []) (.scalar [])

/-- The node that has a name. -/
def named (a : Text) : Drafting Nat := do
  match (← get).anchors.lookup a with
  | some id => return id
  | none => throw .malformed

mutual
/-- A node; inside brackets no block may start, and only below a key a list may start without
being further in. -/
def read : Nat → Bool → Bool → Drafting Nat
  | 0, _, _ => throw .malformed
  | n + 1, inBlock, belowKey => do
    match ← peek with
    | some (.alias a) =>
      drop
      named a
    | _ =>
      let (anchor, tag) ← labels
      let l ← peek
      let id ← reserve anchor
      match l with
      | some (.scalar plain rs) =>
        drop
        settle id (Node.scalarTag plain tag rs) (.scalar rs)
      | some .openList =>
        drop
        settle id (Node.collectionTag .list tag) (.list (← flowItems n true))
      | some .openMap =>
        drop
        settle id (Node.collectionTag .map tag) (.map (← flowEntries n true))
      | _ =>
        if l = some .entry ∧ belowKey then
          settle id (Node.collectionTag .list tag) (.list (← looseItems n))
        else if l = some .blockList ∧ inBlock then
          drop
          settle id (Node.collectionTag .list tag) (.list (← blockItems n))
        else if l = some .blockMap ∧ inBlock then
          drop
          settle id (Node.collectionTag .map tag) (.map (← blockEntries n))
        else if anchor.isSome ∨ tag.isSome then
          settle id (Node.scalarTag true tag []) (.scalar [])
        else throw .malformed

/-- A node, or an empty one if one of these lexemes comes next. -/
def readUnless : Nat → List Lexeme → Bool → Bool → Drafting Nat
  | 0, _, _, _ => throw .malformed
  | n + 1, ends, inBlock, belowKey => do
    if ← isAt ends then empty else read n inBlock belowKey

def blockItems : Nat → Drafting (List Nat)
  | 0 => throw .malformed
  | n + 1 => do
    match ← peek with
    | some .entry =>
      drop
      let x ← readUnless n [.entry, .blockEnd] true false
      return x :: (← blockItems n)
    | some .blockEnd =>
      drop
      return []
    | _ => throw .malformed

/-- The items of a list that is as far in as the key above it. -/
def looseItems : Nat → Drafting (List Nat)
  | 0 => throw .malformed
  | n + 1 => do
    match ← peek with
    | some .entry =>
      drop
      let x ← readUnless n [.entry, .key, .value, .blockEnd] true false
      return x :: (← looseItems n)
    | _ => return []

def blockEntries : Nat → Drafting (List (Nat × Nat))
  | 0 => throw .malformed
  | n + 1 => do
    match ← peek with
    | some .key =>
      drop
      let k ← readUnless n [.key, .value, .blockEnd] true true
      let v ← valueUnless n [.key, .value, .blockEnd] true
      return (k, v) :: (← blockEntries n)
    | some .blockEnd =>
      drop
      return []
    | _ => throw .malformed

/-- The value of an entry, which may be missing, and is if one of these lexemes comes next. -/
def valueUnless : Nat → List Lexeme → Bool → Drafting Nat
  | 0, _, _ => throw .malformed
  | n + 1, ends, inBlock => do
    if ← isAt [.value] then
      drop
      readUnless n ends inBlock inBlock
    else empty

/-- The items of a list between brackets. A pair stands for a map with one entry. -/
def flowItems : Nat → Bool → Drafting (List Nat)
  | 0, _ => throw .malformed
  | n + 1, first => do
    match ← peek with
    | some .closeList =>
      drop
      return []
    | l =>
      if !first then
        if l ≠ some .comma then throw .malformed
        drop
      match ← peek with
      | some .closeList =>
        drop
        return []
      | some .key =>
        let id ← reserve none
        drop
        let k ← readUnless n [.value, .comma, .closeList] false false
        let v ← valueUnless n [.comma, .closeList] false
        let x ← settle id .map (.map [(k, v)])
        return x :: (← flowItems n false)
      | _ =>
        let x ← read n false false
        return x :: (← flowItems n false)

def flowEntries : Nat → Bool → Drafting (List (Nat × Nat))
  | 0, _ => throw .malformed
  | n + 1, first => do
    match ← peek with
    | some .closeMap =>
      drop
      return []
    | l =>
      if !first then
        if l ≠ some .comma then throw .malformed
        drop
      match ← peek with
      | some .closeMap =>
        drop
        return []
      | some .key =>
        drop
        let k ← readUnless n [.value, .comma, .closeMap] false false
        let v ← valueUnless n [.comma, .closeMap] false
        return (k, v) :: (← flowEntries n false)
      | _ =>
        let k ← read n false false
        let v ← empty
        return (k, v) :: (← flowEntries n false)
end

/-- The directives in front of a document. They name the version at most once, which has to be one
that is known, and each handle at most once. -/
def directives : Nat → Bool → Drafting Unit
  | 0, _ => throw .malformed
  | n + 1, versioned => do
    match ← peek with
    | some (.directive (.version major)) =>
      drop
      if versioned ∨ major ≠ 1 then throw .malformed
      directives n true
    | some (.directive (.handle h start)) =>
      drop
      let d ← get
      if (d.handles.lookup h).isSome then throw .malformed
      set { d with handles := (h, start) :: d.handles }
      directives n versioned
    | some (.directive .unknown) =>
      drop
      directives n versioned
    | _ => return

def documentEnds : Nat → Drafting Unit
  | 0 => throw .malformed
  | n + 1 => do
    if ← isAt [.documentEnd] then
      drop
      documentEnds n

/-- Is a document without a node here? -/
def isBare : Drafting Bool := do
  match ← peek with
  | none | some .documentStart | some .documentEnd | some (.directive _) => return true
  | _ => return false

/-- The one document of a text, after directives and a mark if it has any. Without any lexeme there
is none. -/
def document : Drafting (Option Nat) := do
  let fuel := 3 * (← get).lexemes.length + 6
  let root ← match ← peek with
    | none => return none
    | some .documentStart | some (.directive _) =>
      directives fuel false
      if !(← isAt [.documentStart]) then throw .malformed
      drop
      if ← isBare then empty else read fuel true false
    | _ => read fuel true false
  documentEnds fuel
  if (← peek).isSome then
    modify fun d => { d with handles := [] }
    directives fuel false
    discard peek
    throw .malformed
  return some root

end Drafting

def Graph.ofLexemes (ls : List Lexeme) : Except Failure (Option Graph) :=
  match Drafting.document.run { lexemes := ls } with
  | .error f => .error f
  | .ok (root, d) => .ok (root.map fun root => ⟨d.nodes, root⟩)

end CitationStudio.Yaml
