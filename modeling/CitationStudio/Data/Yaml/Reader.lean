import CitationStudio.Data.NumberSet
import CitationStudio.Data.Yaml.Node

/-! The value of a YAML text. Values are made in two steps, since a list or map may be inside
itself: first there is an empty one, and it is filled when its turn comes, in the order in which
they were made. A map whose key is the merge mark takes over the entries of other maps before it is
filled, its own entries winning. A list, a map or a set cannot be a key. -/

namespace CitationStudio.Yaml

/-- What has been made of a node; members and entries are nodes themselves. A list of pairs comes
from maps of one entry each. Numbers that are none are told apart by their stamps. -/
inductive Made where
  | scalar (v : Value) (stamp : Nat)
  | list (items : List Nat)
  | pairs (items : List (Nat × Nat))
  | set (members : List Nat)
  | map (entries : List (Nat × Nat))
  deriving Repr, BEq, Inhabited

namespace Made

/-- The size of a number as a sign, a whole number and an exponent of two. -/
def size? : Value → Option (Bool × Nat × Int)
  | .bool b => some (false, if b then 1 else 0, 0)
  | .int n => some (n < 0, n.natAbs, 0)
  | .float (.finite negative m e) => some (negative, m, e)
  | _ => none

def sameSize : Bool × Nat × Int → Bool × Nat × Int → Bool
  | (s, m, e), (s', m', e') =>
    let low := min e e'
    (m == 0 && m' == 0) ||
      (s == s' && m * Nat.pow 2 (e - low).toNat == m' * Nat.pow 2 (e' - low).toNat)

/-- Are two scalars the same key? Numbers and truth values go by their sizes. -/
def sameKey (v : Value) (stamp : Nat) (w : Value) (stamp' : Nat) : Bool :=
  match size? v, size? w with
  | some a, some b => sameSize a b
  | none, none =>
    match v, w with
    | .float .nan, .float .nan => stamp == stamp'
    | .moment a, .moment b => a.isSame b
    | v, w => v == w
  | _, _ => false

end Made

/-- A document on the way to its value: its nodes, what has been made of each of them, and those
that are still to be filled. -/
structure Build where
  nodes : Array Node
  made : Array (Option Made)
  pending : List Nat
  deriving Inhabited

abbrev Building := StateT Build (Except Failure)

namespace Building

def node (id : Nat) : Building Node := do
  match (← get).nodes[id]? with
  | some n => return n
  | none => throw .malformed

def setNode (id : Nat) (n : Node) : Building Unit :=
  modify fun b => { b with nodes := b.nodes.setIfInBounds id n }

/-- The entries of a map. -/
def entries (id : Nat) : Building (List (Nat × Nat)) := do
  match (← node id).body with
  | .map es => return es
  | _ => throw .malformed

/-- The items of a list. -/
def items (id : Nat) : Building (List Nat) := do
  match (← node id).body with
  | .list ids => return ids
  | _ => throw .malformed

def hasTag (tag : Tag) (id : Nat) : Building Bool := return (← node id).tag == tag

def settle (id : Nat) (m : Made) : Building Unit :=
  modify fun b => { b with made := b.made.setIfInBounds id (some m) }

def madeOf? (id : Nat) : Building (Option Made) := return ((← get).made[id]?).join

/-! ## Scalars -/

/-- The runes of a scalar. For a map they are those of the value that stands in for it. -/
def runes : Nat → Nat → Building Runes
  | 0, _ => throw .malformed
  | n + 1, id => do
    match (← node id).body with
    | .scalar rs => return rs
    | .list _ => throw .malformed
    | .map es =>
      for (k, v) in es do
        if ← hasTag .standIn k then return ← runes n v
      throw .malformed

def scalarOf (id : Nat) : Building Made := do
  let n ← node id
  let rs ← runes ((← get).nodes.size + 1) id
  match n.tag, n.body with
  | .timestamp, .map _ => throw .noTimestampText
  | tag, _ =>
    match Scalar.value tag rs with
    | .error f => throw f
    | .ok v => return .scalar v (if Scalar.isSharedNan rs then 0 else id + 1)

/-! ## Lists and maps -/

/-- What is made of a node before it is filled. -/
def emptyMade? : Tag → Option Made
  | .list => some (.list [])
  | .map => some (.map [])
  | .set => some (.set [])
  | .orderedMap | .pairs => some (.pairs [])
  | _ => none

def make (id : Nat) : Building Unit := do
  if (← madeOf? id).isNone then
    match emptyMade? (← node id).tag with
    | some m =>
      settle id m
      modify fun b => { b with pending := b.pending ++ [id] }
    | none => settle id (← scalarOf id)

/-- The place of the first entry to be merged. -/
def mergePlace? : List (Nat × Nat) → Building (Option Nat)
  | [] => return none
  | (k, _) :: es => do
    if ← hasTag .merge k then return some 0
    return (← mergePlace? es).map (· + 1)

/-- Merges the entries of other maps into a map, in front of its own; `merged` has been merged
already. In a list of maps the later ones come first. A key that is an equality sign is a text. -/
def flattenFrom : Nat → Nat → List (Nat × Nat) → Building Unit
  | 0, _, _ => throw .malformed
  | n + 1, id, merged => do
    let es ← entries id
    match ← mergePlace? es with
    | none =>
      for (k, _) in es do
        if ← hasTag .standIn k then setNode k { ← node k with tag := .text }
      setNode id { ← node id with body := .map (merged ++ es) }
    | some place =>
      setNode id { ← node id with body := .map (es.eraseIdx place) }
      let source := (es[place]?.map Prod.snd).getD id
      match (← node source).body with
      | .map _ =>
        flattenFrom n source []
        flattenFrom n id (merged ++ (← entries source))
      | .list sources =>
        let mut found := []
        for s in sources do
          flattenFrom n s []
          found := (← entries s) ++ found
        flattenFrom n id (merged ++ found)
      | .scalar _ => throw .malformed

/-- How often maps can be merged at most: each time an entry goes, and a map may be looked into
once more. -/
def mergeBound (b : Build) : Nat :=
  let count (n : Node) : Nat := match n.body with
    | .map es => es.length
    | _ => 0
  2 * b.nodes.foldl (fun total n => total + count n) 0 + 2

def flatten (id : Nat) : Building Unit := do flattenFrom (mergeBound (← get)) id []

/-- The value of a scalar that has been made, with its stamp. -/
def key? (id : Nat) : Building (Option (Value × Nat)) := do
  match ← madeOf? id with
  | some (.scalar v stamp) => return some (v, stamp)
  | _ => return none

/-- Adds an entry. A key that is there already stays and takes the new value. -/
def addEntry (k : Value × Nat) (e : Nat × Nat) : List (Nat × Nat) → Building (List (Nat × Nat))
  | [] => return [e]
  | f :: es => do
    match ← key? f.1 with
    | some k' =>
      if Made.sameKey k'.1 k'.2 k.1 k.2 then return (f.1, e.2) :: es
      return f :: (← addEntry k e es)
    | none => return f :: (← addEntry k e es)

def makeEntries (id : Nat) : Building (List (Nat × Nat)) := do
  discard (entries id)
  flatten id
  let mut done := []
  for (k, v) in ← entries id do
    make k
    match ← key? k with
    | none => throw .malformed
    | some key =>
      make v
      done ← addEntry key (k, v) done
  return done

/-- Makes the one entry of a map. -/
def makePair (id : Nat) : Building (Nat × Nat) := do
  match ← entries id with
  | [(k, v)] =>
    make k
    make v
    return (k, v)
  | _ => throw .malformed

def fill (id : Nat) : Building Unit := do
  match ← madeOf? id with
  | some (.list _) =>
    let ids ← items id
    ids.forM make
    settle id (.list ids)
  | some (.pairs _) => settle id (.pairs (← (← items id).mapM makePair))
  | some (.set _) => settle id (.set ((← makeEntries id).map Prod.fst))
  | some (.map _) => settle id (.map (← makeEntries id))
  | _ => return

/-- Fills all that is pending, and what becomes pending meanwhile. No node does so twice. -/
def fillAll : Nat → Building Unit
  | 0 => return
  | n + 1 => do
    match (← get).pending with
    | [] => return
    | id :: rest =>
      modify fun b => { b with pending := rest }
      fill id
      fillAll n

end Building

/-- What has been made of all nodes of a document, and which one all of it is. -/
structure Document where
  made : Array (Option Made)
  root : Nat
  deriving Repr, BEq, Inhabited

namespace Document

/-- The value of a node that is inside the given nodes, and of at most the given depth. -/
def valueAt (d : Document) : Nat → List Nat → Nat → Value
  | 0, _, _ => .null
  | n + 1, outer, id =>
    let inner := d.valueAt n (id :: outer)
    let pair : Nat × Nat → Value × Value := fun e => (inner e.1, inner e.2)
    let isAgain := outer.contains id
    match d.made[id]?.join with
    | none => .null
    | some (.scalar v _) => v
    | some (.list ids) => if isAgain then .again false else .list (ids.map inner)
    | some (.pairs es) =>
      if isAgain then .again false else .list (es.map fun e => .pair (pair e).1 (pair e).2)
    | some (.set ids) => .set (NumberSet.arrange (ids.map inner))
    | some (.map es) => if isAgain then .again true else .map (es.map pair)

def value (d : Document) (id : Nat) : Value := d.valueAt (d.made.size + 1) [] id

/-- The value that a document has for a key, if it is a map with such a key. -/
def entry? (d : Document) (key : Text) : Option Value :=
  match d.made[d.root]?.join with
  | some (.map es) => (es.find? fun e => d.value e.1 == .string key).map fun e => d.value e.2
  | _ => none

end Document

/-- The document that a text spells, if it spells any. -/
def parse (t : Text) : Except Failure (Option Document) :=
  match Graph.ofLexemes (lexemes t) with
  | .error f => .error f
  | .ok none => .ok none
  | .ok (some g) =>
    let build : Building Unit := do
      Building.make g.root
      Building.fillAll (g.nodes.size + 1)
    match build.run ⟨g.nodes, Array.replicate g.nodes.size none, []⟩ with
    | .error f => .error f
    | .ok (_, b) => .ok (some ⟨b.made, g.root⟩)

end CitationStudio.Yaml
