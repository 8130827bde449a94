import CitationStudio.Text.Basic

/-! Binary floating-point numbers of 64 bits, as exact values: a finite one is a whole number
times a power of two. Reading a decimal rounds to the nearest number, a tie to the even
neighbour. The text of a number is the shortest decimal that reads back as the number, and of
those the nearest to it. All of this is arithmetic of whole numbers. -/

namespace CitationStudio

inductive Binary64 where
  | finite (negative : Bool) (mantissa : Nat) (exponent : Int)
  | infinite (negative : Bool)
  | nan
  deriving Repr, DecidableEq, Inhabited

namespace Binary64

/-- A quotient rounded to the nearest whole number, a tie to the even one. -/
def roundDiv (num den : Nat) : Nat :=
  let q := num / den
  let twice := 2 * (num % den)
  if twice < den then q else if den < twice then q + 1 else if q % 2 = 0 then q else q + 1

def power (base : Nat) : Int → Nat × Nat
  | .ofNat n => (base.pow n, 1)
  | .negSucc n => (1, base.pow (n + 1))

def mantissaBound : Nat := Nat.pow 2 53

/-- The finite number nearest to `num / den`, when the exponent of its last place is known to be
`e` or one more. -/
def atPlace (negative : Bool) (num den : Nat) (e : Int) : Binary64 :=
  let (pn, pd) := power 2 e
  let m := roundDiv (num * pd) (den * pn)
  let (m, e) := if m = mantissaBound then (mantissaBound / 2, e + 1) else (m, e)
  if e > 971 then infinite negative else finite negative m e

/-- The number nearest to the fraction `num / den`. -/
def ofRatio (negative : Bool) (num den : Nat) : Binary64 :=
  if num = 0 then finite negative 0 (-1074)
  else
    let guess : Int := (num.log2 : Int) - (den.log2 : Int) - 52
    let (pn, pd) := power 2 guess
    let e := if num * pd < mantissaBound / 2 * (den * pn) then guess - 1 else guess
    atPlace negative num den (max e (-1074))

/-- The number nearest to `digits · 10 ^ exponent`. Beyond the range of the format the answer
is known without raising ten to the exponent. -/
def ofDecimal (negative : Bool) (digits : Nat) (exponent : Int) : Binary64 :=
  let places := (Nat.toDigits 10 digits).length
  if digits = 0 then finite negative 0 (-1074)
  else if exponent + places > 400 then infinite negative
  else if exponent + places < -400 then finite negative 0 (-1074)
  else
    let (pn, pd) := power 10 exponent
    ofRatio negative (digits * pn) pd

/-- The number without its fraction; none for the infinities and for what is not a number. -/
def truncate? : Binary64 → Option Int
  | finite negative m e =>
    let (pn, pd) := power 2 e
    let n : Int := (m * pn / pd : Nat)
    some (if negative then -n else n)
  | _ => none

/-- The number nearest to a whole number; none if it is beyond the range. -/
def ofNat? (n : Nat) : Option Binary64 :=
  match ofRatio false n 1 with
  | infinite _ => none
  | x => some x

/-- The product, rounded. A factor that is not a number, or nought times infinity, gives none. -/
def mul : Binary64 → Binary64 → Binary64
  | finite s m e, finite s' m' e' =>
    let (pn, pd) := power 2 (e + e')
    ofRatio (s != s') (m * m' * pn) pd
  | infinite s, infinite s' => infinite (s != s')
  | infinite s, finite s' m _ | finite s' m _, infinite s =>
    if m = 0 then nan else infinite (s != s')
  | _, _ => nan

def shifted (negative : Bool) (m : Nat) (e least : Int) : Int :=
  let n : Int := (m * Nat.pow 2 (e - least).toNat : Nat)
  if negative then -n else n

/-- The sum, rounded. Two infinities of different signs give no number. -/
def add : Binary64 → Binary64 → Binary64
  | finite s m e, finite s' m' e' =>
    let least := min e e'
    let sum := shifted s m e least + shifted s' m' e' least
    let (pn, pd) := power 2 least
    if sum = 0 then finite (s && s') 0 (-1074)
    else ofRatio (sum < 0) (sum.natAbs * pn) pd
  | infinite s, infinite s' => if s = s' then infinite s else nan
  | infinite s, finite _ _ _ | finite _ _ _, infinite s => infinite s
  | _, _ => nan

def neg : Binary64 → Binary64
  | finite s m e => finite (!s) m e
  | infinite s => infinite (!s)
  | nan => nan

/-- A decimal with the given count of digits next to `num / den`, which has its first digit at
`10 ^ place`: the neighbours below and above on that grid. -/
def neighbours (num den : Nat) (place : Int) (count : Nat) : Nat × Nat × Int :=
  let e := place - (count : Int) + 1
  let (pn, pd) := power 10 e
  let low := num * pd / (den * pn)
  (low, low + 1, e)

def firstPlace (num den : Nat) : Int :=
  let guess : Int := ((Nat.toDigits 10 num).length : Int) - (Nat.toDigits 10 den).length
  let (pn, pd) := power 10 guess
  if num * pd < den * pn then guess - 1 else guess

/-- Of two decimals around a number, the nearer of those that read back as it. -/
def nearer (x : Binary64) (num den : Nat) (low high : Nat) (e : Int) : Option Nat :=
  let reads (n : Nat) : Bool := decide (ofDecimal false n e = x)
  let (pn, pd) := power 10 e
  let below := 2 * num * pd
  let middle := (low + high) * (den * pn)
  match reads low, reads high with
  | true, true =>
    some (if below < middle then low else if middle < below then high
      else if low % 2 = 0 then low else high)
  | true, false => some low
  | false, true => some high
  | false, false => none

/-- The shortest decimal that reads back as a positive number, with from `count` to `17`
digits: its digits and the place of the last one. -/
def shortestFrom (x : Binary64) (num den : Nat) (place : Int) (count : Nat) : Nat → Nat × Int
  | 0 =>
    let (low, _, e) := neighbours num den place 17
    (low, e)
  | tries + 1 =>
    let (low, high, e) := neighbours num den place count
    match nearer x num den low high e with
    | some n => (n, e)
    | none => shortestFrom x num den place (count + 1) tries

/-- Trailing zeros of the digits go into the exponent. -/
def dropZeros (digits : Nat) (e : Int) : Nat → Nat × Int
  | 0 => (digits, e)
  | n + 1 => if digits ≠ 0 ∧ digits % 10 = 0 then dropZeros (digits / 10) (e + 1) n else (digits, e)

/-- The shortest decimal of a finite number other than nought. -/
def shortest (m : Nat) (exponent : Int) : Nat × Int :=
  let (pn, pd) := power 2 exponent
  let (num, den) := (m * pn, pd)
  let (digits, e) := shortestFrom (finite false m exponent) num den (firstPlace num den) 1 17
  dropZeros digits e 20

/-- Digits with a point: positional from `0.0001` up to below `10 ^ 16`, where a whole number
keeps one zero after the point, and otherwise with an exponent of at least two digits. -/
def layout (digits : Nat) (e : Int) : Text :=
  let ds := Nat.toDigits 10 digits
  let point : Int := ds.length + e
  if -4 < point ∧ point ≤ 16 then
    if point ≤ 0 then
      "0.".toList ++ List.replicate (-point).toNat '0' ++ ds
    else if point.toNat < ds.length then
      ds.take point.toNat ++ '.' :: ds.drop point.toNat
    else
      ds ++ List.replicate (point.toNat - ds.length) '0' ++ ".0".toList
  else
    let x := point - 1
    let mantissa := match ds with
      | [] => []
      | [d] => [d]
      | d :: rest => d :: '.' :: rest
    let size := Nat.toDigits 10 x.natAbs
    mantissa ++ 'e' :: (if x < 0 then '-' else '+') ::
      (if size.length < 2 then '0' :: size else size)

def text : Binary64 → Text
  | nan => "nan".toList
  | infinite negative => (if negative then ['-'] else []) ++ "inf".toList
  | finite negative m e =>
    (if negative then ['-'] else []) ++
      if m = 0 then "0.0".toList
      else
        let (digits, place) := shortest m e
        layout digits place

example : (ofDecimal false 1 (-1)).text = "0.1".toList := by decide +kernel
example : (ofDecimal false 5 (-324)).text = "5e-324".toList := by decide +kernel
example : (ofDecimal false 1 16).text = "1e+16".toList := by decide +kernel
example : (ofDecimal true 15 (-1)).text = "-1.5".toList := by decide +kernel
example : ofDecimal false 1 400 = infinite false := by decide +kernel
example : ((ofDecimal false 1 (-1)).add (ofDecimal false 2 (-1))).text =
    "0.30000000000000004".toList := by decide +kernel

end Binary64

end CitationStudio
