import CitationStudio.Text.Basic

/-! Days of the calendar and moments of them. The calendar is the one with a leap year every four
years, but not every hundred, but every four hundred, carried on in both directions. A moment may
say how far its clock is ahead of the common one; such moments are the same if they are at the
same time, whatever their clocks show. -/

namespace CitationStudio

def zeroPadded (width n : Nat) : Text :=
  let digits := Text.ofNat n
  List.replicate (width - digits.length) '0' ++ digits

namespace Calendar

def isLeap (year : Nat) : Bool := year % 4 = 0 && (year % 100 ≠ 0 || year % 400 = 0)

def daysIn (year month : Nat) : Nat :=
  if month = 2 then (if isLeap year then 29 else 28)
  else if [4, 6, 9, 11].contains month then 30 else 31

/-- The days of the years before a year. -/
def daysBeforeYear (year : Nat) : Nat :=
  let past := year - 1
  past * 365 + past / 4 - past / 100 + past / 400

/-- The days of a year before a month of it. -/
def daysBeforeMonth (year : Nat) : Nat → Nat
  | 0 => 0
  | month + 1 => if month = 0 then 0 else daysBeforeMonth year month + daysIn year month

/-- The number of a day, counted from the first day of the year one. -/
def dayNumber (year month day : Nat) : Nat :=
  daysBeforeYear year + daysBeforeMonth year month + day

inductive Trouble where
  | noYear (year : Nat)
  | noMonth
  | noDay
  | noHour
  | noMinute
  | noSecond
  /-- A clock is a day or more ahead, or behind; by so many minutes. -/
  | farOffset (minutes : Int)
  deriving Repr, DecidableEq, Inhabited

/-- A span of minutes as full days, which may be negative, and seconds. -/
def shownSpan (minutes : Int) : Text :=
  let days := minutes.fdiv 1440
  let seconds := minutes.fmod 1440 * 60
  let said := (if days = 0 then [] else ["days=".toList ++ Text.ofInt days]) ++
    if seconds = 0 then [] else ["seconds=".toList ++ Text.ofInt seconds]
  "datetime.timedelta(".toList ++
    (if said.isEmpty then ['0'] else (", ".toList).intercalate said) ++ [')']

def Trouble.message : Trouble → Text
  | noYear year => "year ".toList ++ Text.ofNat year ++ " is out of range".toList
  | noMonth => "month must be in 1..12".toList
  | noDay => "day is out of range for month".toList
  | noHour => "hour must be in 0..23".toList
  | noMinute => "minute must be in 0..59".toList
  | noSecond => "second must be in 0..59".toList
  | farOffset minutes =>
    ("offset must be a timedelta strictly between -timedelta(hours=24) and " ++
      "timedelta(hours=24), not ").toList ++ shownSpan minutes ++ ['.']

def dayTrouble? (year month day : Nat) : Option Trouble :=
  if year = 0 ∨ 9999 < year then some (.noYear year)
  else if month = 0 ∨ 12 < month then some .noMonth
  else if day = 0 ∨ daysIn year month < day then some .noDay
  else none

end Calendar

structure Moment where
  year : Nat
  month : Nat
  day : Nat
  hour : Nat
  minute : Nat
  second : Nat
  micro : Nat
  /-- How many minutes the clock is ahead of the common one. -/
  offset : Option Int
  deriving Repr, DecidableEq, Inhabited

namespace Moment

/-- Why there is no such moment. The offset of the clock is looked at first. -/
def trouble? (m : Moment) : Option Calendar.Trouble :=
  match m.offset.filter fun minutes => minutes ≤ -1440 ∨ 1440 ≤ minutes with
  | some minutes => some (.farOffset minutes)
  | none =>
    (Calendar.dayTrouble? m.year m.month m.day).or
      (if 23 < m.hour then some .noHour
      else if 59 < m.minute then some .noMinute
      else if 59 < m.second then some .noSecond
      else none)

/-- The microseconds up to a moment, on its clock. -/
def onClock (m : Moment) : Nat :=
  (((Calendar.dayNumber m.year m.month m.day * 24 + m.hour) * 60 + m.minute) * 60 + m.second) *
    1000000 + m.micro

/-- Are two moments at the same time? One on an unknown clock is never at the time of one on a
known clock. -/
def isSame (a b : Moment) : Bool :=
  match a.offset, b.offset with
  | none, none => a.onClock == b.onClock
  | some x, some y => (a.onClock : Int) - x * 60000000 == b.onClock - y * 60000000
  | _, _ => false

/-- The clock of a moment, as an object. -/
def shownClock (minutes : Int) : Text :=
  if minutes = 0 then "datetime.timezone.utc".toList
  else "datetime.timezone(".toList ++ Calendar.shownSpan minutes ++ [')']

/-- A moment as an object: seconds and microseconds at its end are left out if they are nought. -/
def shown (m : Moment) : Text :=
  let numbers := [m.year, m.month, m.day, m.hour, m.minute] ++
    if m.micro ≠ 0 then [m.second, m.micro] else if m.second ≠ 0 then [m.second] else []
  "datetime.datetime(".toList ++ (", ".toList).intercalate (numbers.map Text.ofNat) ++
    ((m.offset.map fun minutes => ", tzinfo=".toList ++ shownClock minutes).getD []) ++ [')']

def offsetText (minutes : Int) : Text :=
  (if minutes < 0 then '-' else '+') :: zeroPadded 2 (minutes.natAbs / 60) ++
    ':' :: zeroPadded 2 (minutes.natAbs % 60)

def text (m : Moment) : Text :=
  zeroPadded 4 m.year ++ '-' :: zeroPadded 2 m.month ++ '-' :: zeroPadded 2 m.day ++
    ' ' :: zeroPadded 2 m.hour ++ ':' :: zeroPadded 2 m.minute ++ ':' :: zeroPadded 2 m.second ++
    (if m.micro = 0 then [] else '.' :: zeroPadded 6 m.micro) ++
    ((m.offset.map offsetText).getD [])

example : (⟨2001, 1, 1, 1, 2, 3, 400, some (-330)⟩ : Moment).text =
    "2001-01-01 01:02:03.000400-05:30".toList := by decide +kernel
example :
    isSame ⟨2001, 1, 1, 0, 30, 0, 0, some 60⟩ ⟨2000, 12, 31, 23, 30, 0, 0, some 0⟩ = true := by
  decide +kernel

end Moment

end CitationStudio
