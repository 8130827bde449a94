import CitationStudio.Data.Value
import CitationStudio.Data.Yaml.Failure

/-! Timestamps: a day, or a day and a time of it, to the second or finer, with or without the
offset of the clock. A time and a day stand apart by a letter or by blanks, a time and its offset by
blanks if at all. -/

namespace CitationStudio.Yaml

structure Timestamp where
  year : Text
  month : Text
  day : Text
  /-- Hours, minutes, seconds, and the digits behind the point. -/
  time : Option (Text × Text × Text × Text) := none
  /-- Whether the clock is behind, and by how many hours and minutes, as digits. -/
  offset : Option (Bool × Text × Text) := none
  deriving Repr, DecidableEq, Inhabited

namespace Timestamp

/-- From `least` to `most` digits, as many as there are, and what follows. -/
def digits? (least most : Nat) (t : Text) : Option (Text × Text) :=
  let ds := (t.take most).takeWhile Char.isDigit
  if ds.length < least then none else some (ds, t.drop ds.length)

def after? (c : Char) : Text → Option Text
  | [] => none
  | d :: t => if d = c then some t else none

def isBlank (c : Char) : Bool := c = ' ' || c = '\t'

/-- The offset of a clock, up to the end of a text. -/
def offset? (t : Text) : Option (Bool × Text × Text) :=
  match t with
  | ['Z'] => some (false, [], [])
  | s :: t =>
    if s ≠ '-' ∧ s ≠ '+' then none
    else do
      let (hours, t) ← digits? 1 2 t
      if t.isEmpty then return (s = '-', hours, [])
      let (minutes, t) ← digits? 2 2 (← after? ':' t)
      if t.isEmpty then return (s = '-', hours, minutes) else none
  | [] => none

/-- A time with its offset, behind a day. -/
def withTime? (s : Timestamp) (t : Text) : Option Timestamp := do
  let (hours, t) ← digits? 1 2 t
  let (minutes, t) ← digits? 2 2 (← after? ':' t)
  let (seconds, t) ← digits? 2 2 (← after? ':' t)
  let fraction := match t with
    | '.' :: r => r.takeWhile Char.isDigit
    | _ => []
  let t := if t.head? = some '.' then t.drop (fraction.length + 1) else t
  let s := { s with time := some (hours, minutes, seconds, fraction) }
  if t.isEmpty then return s
  return { s with offset := some (← offset? (t.dropWhile isBlank)) }

/-- The timestamp that a text is. A line feed at its end does not count. -/
def ofText? (t : Text) : Option Timestamp := do
  let t := if t.getLast? = some '\n' then t.dropLast else t
  let (year, t) ← digits? 4 4 t
  let (month, t) ← digits? 1 2 (← after? '-' t)
  let (day, t) ← digits? 1 2 (← after? '-' t)
  let s : Timestamp := { year, month, day }
  match t with
  | [] => return s
  | c :: r =>
    if c = 'T' ∨ c = 't' then s.withTime? r
    else if isBlank c then s.withTime? (r.dropWhile isBlank)
    else none

/-- Is a timestamp written so that it needs no tag? A day alone has all its digits then. -/
def isPlain (s : Timestamp) : Bool :=
  s.time.isSome || (s.month.length = 2 && s.day.length = 2)

def natOf (ds : Text) : Nat := ds.foldl (fun n c => 10 * n + (c.toNat - 48)) 0

/-- The millionths that digits behind the point are; further digits are cut off. -/
def micros (fraction : Text) : Nat :=
  let ds := fraction.take 6
  natOf ds * Nat.pow 10 (6 - ds.length)

def minutesAhead : Bool × Text × Text → Int
  | (behind, hours, minutes) =>
    let n : Int := (natOf hours * 60 + natOf minutes : Nat)
    if behind then -n else n

def value (s : Timestamp) : Except Failure Value :=
  let year := natOf s.year
  let month := natOf s.month
  let day := natOf s.day
  match s.time with
  | none =>
    match Calendar.dayTrouble? year month day with
    | some t => .error (.noMoment t)
    | none => .ok (.date year month day)
  | some (hours, minutes, seconds, fraction) =>
    let m : Moment := {
      year, month, day
      hour := natOf hours
      minute := natOf minutes
      second := natOf seconds
      micro := micros fraction
      offset := s.offset.map minutesAhead }
    match m.trouble? with
    | some t => .error (.noMoment t)
    | none => .ok (.moment m)

end Timestamp

end CitationStudio.Yaml
