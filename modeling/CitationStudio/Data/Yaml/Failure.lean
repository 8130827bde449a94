import CitationStudio.Data.Moment
import CitationStudio.Text.Rune

/-! Why a YAML text has no value: it is not YAML, or it is, but something in it stands for no value
although it claims to. -/

namespace CitationStudio.Yaml

inductive Failure where
  | malformed
  /-- A character is named by a code beyond the last one. -/
  | noCharacter
  /-- A code does not even fit into a machine word. -/
  | hugeCode
  | noNumeral (base : Nat) (rs : Runes)
  | longNumeral (digits : Nat)
  /-- A numeral without any character. -/
  | emptyNumeral
  | noFloat (rs : Runes)
  /-- A number is too large for a floating-point one. -/
  | hugeNumber
  | noTruth (rs : Runes)
  | noTimestamp
  /-- A list or map stands where the text of a timestamp should. -/
  | noTimestampText
  | noMoment (t : Calendar.Trouble)
  deriving Repr, DecidableEq, Inhabited

namespace Failure

/-- What sort of failure it is, as the caller of a reader tells them apart. -/
inductive Kind where
  | badValue | missingEntry | missingItem | missingMember | overflow | wrongClass
  deriving Repr, DecidableEq, Inhabited

def kind : Failure → Kind
  | noTruth _ => .missingEntry
  | emptyNumeral => .missingItem
  | noTimestamp => .missingMember
  | hugeCode | hugeNumber => .overflow
  | noTimestampText => .wrongClass
  | _ => .badValue

/-- How much of a numeral is shown in a message. -/
def shownLength : Nat := 200

def message : Failure → Text
  | malformed => "malformed".toList
  | noCharacter => "chr() arg not in range(0x110000)".toList
  | hugeCode => "Python int too large to convert to C int".toList
  | noNumeral base rs =>
    "invalid literal for int() with base ".toList ++ Text.ofNat base ++ ": ".toList ++
      rs.quoted.take shownLength
  | longNumeral digits =>
    "Exceeds the limit (4300 digits) for integer string conversion: value has ".toList ++
      Text.ofNat digits ++
      " digits; use sys.set_int_max_str_digits() to increase the limit".toList
  | emptyNumeral => "string index out of range".toList
  | noFloat rs => "could not convert string to float: ".toList ++ rs.quoted
  | hugeNumber => "int too large to convert to float".toList
  | noTruth rs => rs.quoted
  | noTimestamp => "'NoneType' object has no attribute 'groupdict'".toList
  | noTimestampText => "expected string or bytes-like object, got 'list'".toList
  | noMoment t => t.message

end Failure

end CitationStudio.Yaml
