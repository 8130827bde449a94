import CitationStudio.Text.Digit

/-! Whole numbers as people write them: blanks around, a sign, decimal digits of any script,
and single underscores between digits. A numeral of more than 4300 digits is neither read nor
written. Numbers of other bases are read without underscores, and at any length. -/

namespace CitationStudio.Numeral

/-- The blanks allowed around a numeral; the information separators are not among them. -/
def isMargin (c : Char) : Bool := Text.isSpace c && !(0x1c ≤ c.toNat && c.toNat ≤ 0x1f)

def trim (t : Text) : Text := ((t.dropWhile isMargin).reverse.dropWhile isMargin).reverse

/-- The values of the digits, an underscore being allowed between two of them. -/
def digits? : Text → Option (List Nat)
  | [] => none
  | [c] => (Text.digitValue? c).map ([·])
  | c :: '_' :: t =>
    match Text.digitValue? c, digits? t with
    | some d, some ds => some (d :: ds)
    | _, _ => none
  | c :: d :: t =>
    match Text.digitValue? c, digits? (d :: t) with
    | some n, some ns => some (n :: ns)
    | _, _ => none

/-- The number with the given digits, the highest first. -/
def ofDigits (ds : List Nat) : Nat := ds.foldl (fun n d => 10 * n + d) 0

/-- The most digits a numeral may have. -/
def digitLimit : Nat := 4300

def nat? (t : Text) : Option Nat :=
  match digits? t with
  | some ds => if ds.length ≤ digitLimit then some (ofDigits ds) else none
  | none => none

def int? (t : Text) : Option Int :=
  match trim t with
  | '-' :: r => (nat? r).map fun n => -(n : Int)
  | '+' :: r => (nat? r).map fun n => (n : Int)
  | r => (nat? r).map fun n => (n : Int)

/-- The least number that is too long to be written. -/
def writingLimit : Nat := Nat.pow 10 digitLimit

def isWritable (n : Int) : Bool := n.natAbs < writingLimit

def unwritableMessage : Text :=
  ("Exceeds the limit (4300 digits) for integer string conversion; " ++
    "use sys.set_int_max_str_digits() to increase the limit").toList

/-- The value of a digit in a base of at most sixteen. -/
def digitIn? (base : Nat) (c : Char) : Option Nat :=
  let n := c.toNat
  let value :=
    if 'a' ≤ c ∧ c ≤ 'f' then some (n - 87)
    else if 'A' ≤ c ∧ c ≤ 'F' then some (n - 55)
    else Text.digitValue? c
  value.filter (· < base)

/-- The letters that a numeral of a base may have behind a nought in front. -/
def baseMarks (base : Nat) : List Char :=
  if base = 2 then ['b', 'B'] else if base = 8 then ['o', 'O']
  else if base = 16 then ['x', 'X'] else []

/-- Without the mark of its base. -/
def dropMark (base : Nat) : Text → Text
  | '0' :: c :: t => if (baseMarks base).contains c then t else '0' :: c :: t
  | t => t

inductive Trouble where
  | noNumeral
  | tooLong (digits : Nat)
  deriving Repr, DecidableEq, Inhabited

/-- The number that digits of a base spell. A decimal one is not made if it has too many digits,
whatever follows them. -/
def natIn (base : Nat) (t : Text) : Except Trouble Nat :=
  let digits := t.takeWhile fun c => (digitIn? base c).isSome
  if base = 10 ∧ digitLimit < digits.length then .error (.tooLong digits.length)
  else if digits.isEmpty ∨ digits.length < t.length then .error .noNumeral
  else .ok (digits.foldl (fun n c => base * n + (digitIn? base c).getD 0) 0)

def intIn (base : Nat) (t : Text) : Except Trouble Int :=
  match trim t with
  | '-' :: r => (natIn base (dropMark base r)).map fun n => -(n : Int)
  | '+' :: r => (natIn base (dropMark base r)).map fun n => (n : Int)
  | r => (natIn base (dropMark base r)).map fun n => (n : Int)

example : (intIn 16 " -0xfF".toList).toOption = some (-255) := by decide +kernel
example : (intIn 8 "08".toList).toOption = none := by decide +kernel
example : int? " 1_0\n".toList = some 10 := by decide +kernel
example : int? "- 5".toList = none := by decide +kernel
example : int? "1__0".toList = none := by decide +kernel

end CitationStudio.Numeral
