import CitationStudio.Text.Quoted
import CitationStudio.Span

/-! A document is a text cut into segments, each a run of characters of one kind: literal text,
or an expression that will become a slot. It is normal if no segment is empty and no two
neighbours are of one kind; for every assignment of kinds to characters there is exactly one
normal document. -/

namespace CitationStudio

/-- The kind of a segment is a word; `literal` and `expr` are the ones with a meaning. -/
structure Segment where
  kind : Text
  text : Text
  deriving Repr, DecidableEq, Inhabited

namespace Segment

def literal : Text := "literal".toList

def expr : Text := "expr".toList

def isExpr (s : Segment) : Bool := s.kind = expr

/-- The compiled form of a segment. A literal one cannot hold a closing brace, and has a closing
parenthesis in its place. -/
def compiled (s : Segment) : Text :=
  if s.isExpr then ['[', '%', 's', ']']
  else '{' :: s.text.map (fun c => if c = '}' then ')' else c) ++ ['}']

end Segment

abbrev Document := List Segment

namespace Document

def ofText (t : Text) : Document := [⟨Segment.literal, t⟩]

def text (d : Document) : Text := d.flatMap Segment.text

def marked (d : Document) : List (Char × Text) :=
  d.flatMap fun s => s.text.map fun c => (c, s.kind)

/-- Puts a segment before a normal document. -/
def cons (s : Segment) : Document → Document
  | [] => if s.text.isEmpty then [] else [s]
  | s' :: d =>
    if s.text.isEmpty then s' :: d
    else if s.kind = s'.kind then ⟨s.kind, s.text ++ s'.text⟩ :: d
    else s :: s' :: d

/-- Drops empty segments and joins neighbours of one kind. -/
def normalize (d : Document) : Document := d.foldr cons []

def isNormal : Document → Bool
  | [] => true
  | [s] => !s.text.isEmpty
  | s :: s' :: d => !s.text.isEmpty && s.kind != s'.kind && isNormal (s' :: d)

/-- The segment that an offset falls in, counted from `index`, and the offset inside it. An
offset between two segments falls at the end of the earlier one; one beyond the end falls at
the end of the last segment. -/
def locateFrom (index : Nat) (offset : Int) : Document → Nat × Nat
  | [] => (0, 0)
  | [s] => (index, (min offset s.text.length).toNat)
  | s :: s' :: d =>
    if offset ≤ s.text.length then (index, offset.toNat)
    else locateFrom (index + 1) (offset - s.text.length) (s' :: d)

def locate (d : Document) (offset : Int) : Nat × Nat := d.locateFrom 0 offset

/-- Divides the segment at a place into two of its kind, unless that would leave an empty one
or there is no such segment. -/
def splitRaw (d : Document) (index offset : Int) : Document :=
  if index < 0 then d
  else match d[index.toNat]? with
    | none => d
    | some s =>
      if offset ≤ 0 ∨ (s.text.length : Int) ≤ offset then d
      else d.take index.toNat ++ ⟨s.kind, s.text.take offset.toNat⟩ ::
        ⟨s.kind, s.text.drop offset.toNat⟩ :: d.drop (index.toNat + 1)

/-- Does `splitRaw` divide a segment? -/
def canSplit (d : Document) (index offset : Int) : Bool :=
  0 ≤ index && match d[index.toNat]? with
    | none => false
    | some s => 0 < offset && offset < s.text.length

/-- Divides a segment and makes the result normal; without a segment to divide the document
stays as it is. -/
def split (d : Document) (index offset : Int) : Document :=
  if d.canSplit index offset then (d.splitRaw index offset).normalize else d

def cutAt (d : Document) (offset : Int) : Document :=
  let (index, inner) := d.locate offset
  d.splitRaw index inner

/-- Gives a kind to every segment that lies from `start` to `stop`, the first segment of the
document starting at `cursor`. -/
def retype (kind : Text) (start stop : Int) (cursor : Int) : Document → Document
  | [] => []
  | s :: d =>
    let next := cursor + s.text.length
    (if !s.text.isEmpty && start ≤ cursor && next ≤ stop then ⟨kind, s.text⟩ else s) ::
      retype kind start stop next d

/-- A kind that characters cannot be marked with. -/
structure UnknownKind where
  kind : Text
  deriving Repr, DecidableEq

def UnknownKind.message (e : UnknownKind) : Text :=
  "Unknown segment type: ".toList ++ e.kind.quoted

/-- Gives a kind to every character between two offsets, which may come in either order and lie
outside the document. The later end is cut first, so that the place of the earlier one is not
moved by it. -/
def markKnown (d : Document) (start stop : Int) (kind : Text) : Document :=
  let total : Int := d.text.length
  let a := max 0 (min (min start stop) total)
  let b := max 0 (min (max start stop) total)
  if a = b then d.normalize
  else (retype kind a b 0 ((d.cutAt b).cutAt a)).normalize

def mark (d : Document) (start stop : Int) (kind : Text) : Except UnknownKind Document :=
  if kind = Segment.literal ∨ kind = Segment.expr then .ok (d.markKnown start stop kind)
  else .error ⟨kind⟩

def markAll (d : Document) : List Span → Document
  | [] => d
  | s :: stretches => (d.markKnown s.start s.stop Segment.expr).markAll stretches

def ofMarks (t : Text) (stretches : List Span) : Document :=
  (ofText t).normalize.markAll stretches

/-- The kind of the character at an offset, given the spans of the expressions. -/
def kindAt (spans : List Span) (offset : Int) : Text :=
  if Span.Covers spans offset then Segment.expr else Segment.literal

/-- The document of a text whose first character is at `offset`: what the spans cover is an
expression, all else is literal. -/
def ofSpansFrom (spans : List Span) (offset : Int) : Text → Document
  | [] => []
  | c :: t => cons ⟨kindAt spans offset, [c]⟩ (ofSpansFrom spans (offset + 1) t)

def ofSpans (t : Text) (spans : List Span) : Document := ofSpansFrom spans 0 t

def compiledJoined : Document → Text
  | [] => []
  | [s] => s.compiled
  | s :: s' :: d => s.compiled ++ '+' :: compiledJoined (s' :: d)

/-- The compiled form of a document: one group of its runs. A document without text has none. -/
def compiled (d : Document) : Text :=
  match d.normalize with
  | [] => []
  | runs => '[' :: compiledJoined runs ++ [']']

def expressions (d : Document) : Nat := d.normalize.countP Segment.isExpr

theorem marked_cons (s : Segment) (d : Document) :
    marked (cons s d) = s.text.map (fun c => (c, s.kind)) ++ marked d := by
  cases d with
  | nil =>
    simp only [cons]
    split <;> simp_all [marked]
  | cons s' d =>
    simp only [cons]
    split
    · simp_all [marked]
    · split
      · rename_i hk
        simp [marked, hk]
      · simp [marked]

theorem marked_normalize (d : Document) : marked d.normalize = marked d := by
  induction d with
  | nil => rfl
  | cons s d ih =>
    rw [normalize, List.foldr_cons, marked_cons, ← normalize, ih]
    simp [marked]

theorem map_fst_marked (d : Document) : d.marked.map Prod.fst = d.text := by
  induction d with
  | nil => rfl
  | cons s d ih => simpa [marked, text, Function.comp_def] using ih

theorem isNormal_cons (s : Segment) {d : Document} (h : isNormal d = true) :
    isNormal (cons s d) = true := by
  cases d with
  | nil =>
    simp only [cons]
    split <;> simp_all [isNormal]
  | cons s' d =>
    simp only [cons]
    split
    · exact h
    · split
      · rename_i ht hk
        cases d with
        | nil => simp_all [isNormal]
        | cons s'' d =>
          simp only [isNormal, Bool.and_eq_true] at h ⊢
          refine ⟨⟨?_, ?_⟩, h.2⟩
          · simp_all
          · rw [hk]; exact h.1.2
      · simp_all [isNormal]

theorem isNormal_normalize (d : Document) : isNormal d.normalize = true := by
  induction d with
  | nil => rfl
  | cons s d ih => exact isNormal_cons s ih

end Document

end CitationStudio
