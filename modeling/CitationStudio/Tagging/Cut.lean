import CitationStudio.Text.Quoted
import CitationStudio.Template.Basic

/-! Cutting a stretch of text out of the literal parts of a template, to make one new part of
it. The stretch may begin and end inside a part, whose other pieces stay literal, and it may go
over several parts; parts that it only touches are kept as they are. -/

namespace CitationStudio.Tagging

structure UnknownSort where
  word : Text
  deriving Repr, DecidableEq

def UnknownSort.message (e : UnknownSort) : Text :=
  "Unknown part kind: ".toList ++ e.word.quoted

/-- The part of a sort that holds a text; only literals and slots hold text. -/
def makePart (sort text : Text) : Except UnknownSort Part :=
  if sort = Part.Kind.literal.name then .ok (.literal text)
  else if sort = Part.Kind.slot.name then .ok (.slot text)
  else .error ⟨sort⟩

/-- Why nothing is cut. -/
inductive CutError where
  | notLiteral
  | unknownSort (e : UnknownSort)
  deriving Repr, DecidableEq

/-- Does a part overlap a stretch? One without text does if it lies strictly inside. -/
def overlaps (start stop first last : Nat) : Bool := first < stop && start < last

/-- The parts after the cut, and whether the end of the stretch was met. The first of the parts
is at `cursor`; `taken` is the text of the stretch so far, once it has begun. -/
def cutFrom (sort : Text) (start stop cursor : Nat) (taken : Option Text) :
    List Entry → Except CutError (List Template.Item × Bool)
  | [] => .ok ([], false)
  | e :: es =>
    let text := e.part.display
    let last := cursor + text.length
    if !overlaps start stop cursor last then
      match cutFrom sort start stop last taken es with
      | .ok (items, met) => .ok (.kept e :: items, met)
      | .error err => .error err
    else if !e.part.isLiteral then .error .notLiteral
    else
      let a := max start cursor - cursor
      let b := min stop last - cursor
      let head : List Template.Item :=
        if taken.isNone && 0 < a then [.new (.literal (text.take a))] else []
      let taken := taken.getD [] ++ (text.take b).drop a
      if last < stop then
        match cutFrom sort start stop last (some taken) es with
        | .ok (items, met) => .ok (head ++ items, met)
        | .error err => .error err
      else
        match makePart sort taken with
        | .error err => .error (.unknownSort err)
        | .ok part =>
          let tail : List Template.Item :=
            if b < text.length then [.new (.literal (text.drop b))] else []
          match cutFrom sort start stop last none es with
          | .ok (items, _) => .ok (head ++ .new part :: tail ++ items, true)
          | .error err => .error err

/-- The parts after the stretch from `start` to before `stop` has become one part. -/
def cut (sort : Text) (start stop : Nat) (es : List Entry) :
    Except CutError (List Template.Item × Bool) :=
  cutFrom sort start stop 0 none es

end CitationStudio.Tagging
