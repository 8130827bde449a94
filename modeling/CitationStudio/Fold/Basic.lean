import CitationStudio.Fold.Token
import CitationStudio.Fold.Balance
import CitationStudio.Document.Basic

/-! Folded text: a buffer with tokens, the pieces folded away behind them, and the spans that
are marked as expressions, in offsets of the buffer. Balanced stretches are folded into a token
and all tokens unfolded again; stretches are marked and unmarked; the buffer is edited. A
selection that does not fit is refused, with the reason, and nothing changes. -/

namespace CitationStudio

structure FoldedText where
  buffer : Text
  pieces : List Text
  spans : List Span
  deriving Repr, DecidableEq, Inhabited

namespace Fold

inductive Refusal where
  | nothingSelected
  | outOfBounds
  | unbalanced
  | cutsToken
  | cutsExpression
  | reserved
  | editCutsToken
  deriving Repr, DecidableEq, Inhabited

def Refusal.message : Refusal → Text
  | .nothingSelected => "Please select at least one character.".toList
  | .outOfBounds => "Selection is out of bounds.".toList
  | .unbalanced => "Only balanced bracket and brace spans can be folded.".toList
  | .cutsToken => "Selection cuts through folded text.".toList
  | .cutsExpression => "Selection overlaps part of a marked expression.".toList
  | .reserved => "[*] is reserved for folded text.".toList
  | .editCutsToken => "Edits cannot cut through folded text.".toList

/-- A span of the buffer in offsets of the expanded text. An end that is no offset of the buffer
goes to the end of the text, and an end is never before its start. -/
def expandSpan (map : List Nat) (length : Nat) (s : Span) : Span :=
  let position (i : Int) : Nat := if i < 0 then length else (map[i.toNat]?).getD length
  ⟨position s.start, max (position s.start) (position s.stop)⟩

/-- Widens a stretch so that neither end is strictly inside the token at `pos`. -/
def snapTo (stretch : Int × Int) (pos : Nat) : Int × Int :=
  let (a, b) := stretch
  (if ↑pos < a ∧ a < pos + 3 then pos else a, if ↑pos < b ∧ b < pos + 3 then pos + 3 else b)

/-- Widens a stretch so that neither end is strictly inside a token. -/
def snap (buffer : Text) (start stop : Int) : Int × Int :=
  (tokens buffer).foldl snapTo (start, stop)

def slice (t : Text) (start stop : Nat) : Text := (t.take stop).drop start

def splice (t : Text) (start stop : Nat) (inserted : Text) : Text :=
  t.take start ++ inserted ++ t.drop stop

end Fold

namespace FoldedText

open Fold

def ofText (t : Text) : FoldedText := ⟨t, [], []⟩

def foldCount (f : FoldedText) : Nat := tokenCount f.buffer

def expanded (f : FoldedText) : Text := expand f.buffer f.pieces

def expandedSpans (f : FoldedText) : List Span :=
  f.spans.map (expandSpan (offsets f.buffer f.pieces) f.expanded.length)

def document (f : FoldedText) : Document := Document.ofSpans f.expanded f.expandedSpans

def compiled (f : FoldedText) : Text := f.document.compiled

/-- The pieces, a token beyond them standing for itself. -/
def paddedPieces (f : FoldedText) : List Text :=
  f.pieces ++ List.replicate (f.foldCount - f.pieces.length) token

/-- A selection with its ends in order, if it holds a character and lies in the buffer. -/
def selection (f : FoldedText) (start stop : Int) : Except Refusal (Nat × Nat) :=
  let a := min start stop
  let b := max start stop
  if a = b then .error .nothingSelected
  else if a < 0 ∨ (f.buffer.length : Int) < b then .error .outOfBounds
  else .ok (a.toNat, b.toNat)

/-- Does a stretch overlap a marked span without being inside it? -/
def cutsSpan (start stop : Nat) (s : Span) : Bool :=
  s.start < stop && start < s.stop && !(s.start ≤ start && stop ≤ s.stop)

/-- Folds a stretch of the buffer into one token. Tokens inside it go, expanded, into the new
piece. -/
def foldAt (f : FoldedText) (start stop : Nat) : FoldedText :=
  let before := ((tokens f.buffer).filter (· < start)).length
  let inside := ((tokens f.buffer).filter fun pos => start ≤ pos && pos + 3 ≤ stop).length
  let pieces := f.paddedPieces
  let piece := expand (slice f.buffer start stop) ((pieces.drop before).take inside)
  { buffer := splice f.buffer start stop token
    pieces := pieces.take before ++ piece :: pieces.drop (before + inside)
    spans := Span.remap f.spans start stop 3 }

def fold (f : FoldedText) (start stop : Int) : Except Refusal FoldedText :=
  match f.selection start stop with
  | .error r => .error r
  | .ok (a, b) =>
    if !isBalanced (slice f.buffer a b) then .error .unbalanced
    else if snap f.buffer a b ≠ (↑a, ↑b) then .error .cutsToken
    else if f.spans.any (cutsSpan a b) then .error .cutsExpression
    else .ok (f.foldAt a b)

/-- Opens all folds. -/
def unfold (f : FoldedText) : FoldedText := ⟨f.expanded, [], Span.merge f.expandedSpans⟩

/-- Marks a selection, widened to whole tokens, as an expression. -/
def markExpr (f : FoldedText) (start stop : Int) : Except Refusal FoldedText :=
  match f.selection start stop with
  | .error r => .error r
  | .ok (a, b) =>
    let (a, b) := snap f.buffer a b
    .ok { f with spans := Span.merge (f.spans ++ [⟨a, b⟩]) }

/-- Takes the mark from a selection, widened to whole tokens. -/
def markLiteral (f : FoldedText) (start stop : Int) : Except Refusal FoldedText :=
  match f.selection start stop with
  | .error r => .error r
  | .ok (a, b) =>
    let (a, b) := snap f.buffer a b
    .ok { f with spans := Span.subtract f.spans a b }

/-- Drops the pieces whose places are picked out, the first one having the given place. -/
def dropPieces (gone : Nat → Bool) (place : Nat) : List Text → List Text
  | [] => []
  | p :: ps =>
    if gone place then dropPieces gone (place + 1) ps else p :: dropPieces gone (place + 1) ps

/-- Replaces a stretch of the buffer. Tokens in it go, with their pieces; it may not cut through
a token, and no new token may come to be by it. -/
def edit (f : FoldedText) (start stop : Int) (inserted : Text) : Except Refusal FoldedText :=
  let a := min start stop
  let b := max start stop
  if a < 0 ∨ (f.buffer.length : Int) < b then .error .outOfBounds
  else if Text.occursIn token inserted then .error .reserved
  else if snap f.buffer a b ≠ (a, b) then .error .editCutsToken
  else
    let marks := tokens f.buffer
    let isGone (pos : Nat) : Bool := a ≤ pos && (pos : Int) + 3 ≤ b
    let gone (place : Nat) : Bool := (marks[place]?).any isGone
    let buffer := splice f.buffer a.toNat b.toNat inserted
    if tokenCount buffer ≠ marks.length - (marks.filter isGone).length then .error .reserved
    else .ok { buffer
               pieces := dropPieces gone 0 f.pieces
               spans := Span.remap f.spans a b inserted.length }

def piece? (f : FoldedText) (place : Int) : Option Text :=
  if place < 0 then none else f.pieces[place.toNat]?

end FoldedText

end CitationStudio
