import CitationStudio.Number.Binary64
import CitationStudio.Number.Numeral

/-! Floating-point numbers as people write them: blanks around, a sign, digits of any script with
at most one point among them, and an exponent; or the words for infinity and for what is no
number. -/

namespace CitationStudio.Decimal

/-- The exponent that a text is. None at all counts as nought. -/
def exponent? : Text → Option Int
  | [] => some 0
  | e :: t =>
    if e ≠ 'e' ∧ e ≠ 'E' then none
    else
      let read (digits : Text) : Option Nat :=
        if digits.isEmpty then none
        else (digits.mapM Text.digitValue?).map Numeral.ofDigits
      match t with
      | '-' :: digits => (read digits).map fun n => -(n : Int)
      | '+' :: digits => (read digits).map fun n => (n : Int)
      | digits => (read digits).map fun n => (n : Int)

def isDigit (c : Char) : Bool := (Text.digitValue? c).isSome

def unsigned? (negative : Bool) (t : Text) : Option Binary64 :=
  let word := t.map Char.toLower
  if word = "inf".toList ∨ word = "infinity".toList then some (.infinite negative)
  else if word = "nan".toList then some .nan
  else
    let whole := t.takeWhile isDigit
    let rest := t.drop whole.length
    let fraction := match rest with
      | '.' :: r => r.takeWhile isDigit
      | _ => []
    let rest := if rest.head? = some '.' then rest.drop (fraction.length + 1) else rest
    if whole.isEmpty ∧ fraction.isEmpty then none
    else
      let digits := (whole ++ fraction).filterMap Text.digitValue?
      (exponent? rest).map fun e =>
        .ofDecimal negative (Numeral.ofDigits digits) (e - fraction.length)

/-- The number nearest to what a text spells, if it spells one. -/
def read? (t : Text) : Option Binary64 :=
  match Numeral.trim t with
  | '-' :: r => unsigned? true r
  | '+' :: r => unsigned? false r
  | r => unsigned? false r

example : (read? " -1.5e3\n".toList).map Binary64.text = some "-1500.0".toList := by decide +kernel
example : read? ".e1".toList = none := by decide +kernel

end CitationStudio.Decimal
