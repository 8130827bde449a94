import CitationStudio.Data.Value

/-! JSON text, cut into lexemes. Besides the standard ones the words `NaN`, `Infinity` and
`-Infinity` are numbers. What starts no lexeme is `bad`, and nothing is read after it. A whole
number of more than 4300 digits is a lexeme of its own, which no value can be made of. -/

namespace CitationStudio.Json

inductive Lexeme where
  | openList | closeList | openMap | closeMap | comma | colon
  | text (rs : Runes)
  | atom (v : Value)
  | tooLong (digits : Nat)
  | bad
  deriving Repr, BEq, Inhabited

def isGap (c : Char) : Bool := c = ' ' || c = '\t' || c = '\n' || c = '\r'

def hexValue? (c : Char) : Option Nat :=
  if '0' ≤ c ∧ c ≤ '9' then some (c.toNat - 48)
  else if 'a' ≤ c ∧ c ≤ 'f' then some (c.toNat - 87)
  else if 'A' ≤ c ∧ c ≤ 'F' then some (c.toNat - 55)
  else none

def hex4? (a b c d : Char) : Option Nat :=
  match hexValue? a, hexValue? b, hexValue? c, hexValue? d with
  | some a, some b, some c, some d => some (((a * 16 + b) * 16 + c) * 16 + d)
  | _, _, _, _ => none

/-- The character an escape of one letter stands for. -/
def escaped? : Char → Option Char
  | '"' => some '"'
  | '\\' => some '\\'
  | '/' => some '/'
  | 'b' => some '\x08'
  | 'f' => some '\x0c'
  | 'n' => some '\n'
  | 'r' => some '\r'
  | 't' => some '\t'
  | _ => none

/-- The code units of a text, up to its closing quote, and what follows the quote. -/
def textUnits : Text → Option (List Nat × Text)
  | [] => none
  | '"' :: t => some ([], t)
  | '\\' :: 'u' :: a :: b :: c :: d :: t =>
    match hex4? a b c d, textUnits t with
    | some n, some (us, rest) => some (n :: us, rest)
    | _, _ => none
  | '\\' :: c :: t =>
    match escaped? c, textUnits t with
    | some e, some (us, rest) => some (e.toNat :: us, rest)
    | _, _ => none
  | c :: t =>
    if c.toNat < 32 ∨ c = '\\' then none
    else match textUnits t with
      | some (us, rest) => some (c.toNat :: us, rest)
      | none => none

/-- The runes of code units: two halves of a character that follow each other make it up. -/
def joinUnits : List Nat → Runes
  | [] => []
  | [u] => [.ofCode u]
  | u :: w :: us =>
    if 0xd800 ≤ u ∧ u ≤ 0xdbff ∧ 0xdc00 ≤ w ∧ w ≤ 0xdfff then
      .char (Char.ofNat (0x10000 + (u - 0xd800) * 1024 + (w - 0xdc00))) :: joinUnits us
    else .ofCode u :: joinUnits (w :: us)

/-- The digits of a number: before the point, after it, and the exponent. A part is there only
if it has a digit; what follows the number comes last. -/
structure Digits where
  whole : Text
  fraction : Text
  exponent : Option Int
  rest : Text

def natOf (ds : Text) : Nat := ds.foldl (fun n c => 10 * n + (c.toNat - 48)) 0

def exponent? (t : Text) : Option (Int × Text) :=
  match t with
  | c :: r =>
    if c = 'e' ∨ c = 'E' then
      let (negative, r) := match r with
        | '-' :: r => (true, r)
        | '+' :: r => (false, r)
        | r => (false, r)
      let ds := r.takeWhile Char.isDigit
      if ds.isEmpty then none
      else some (if negative then -(natOf ds : Int) else natOf ds, r.dropWhile Char.isDigit)
    else none
  | [] => none

/-- Reads a number without its sign. A leading zero stands alone. -/
def digits? (t : Text) : Option Digits :=
  let whole := match t with
    | '0' :: _ => ['0']
    | t => t.takeWhile Char.isDigit
  if whole.isEmpty then none
  else
    let r := t.drop whole.length
    let fraction := match r with
      | '.' :: r => r.takeWhile Char.isDigit
      | _ => []
    let r := if fraction.isEmpty then r else r.drop (fraction.length + 1)
    match exponent? r with
    | some (e, rest) => some ⟨whole, fraction, some e, rest⟩
    | none => some ⟨whole, fraction, none, r⟩

def Digits.lexeme (d : Digits) (negative : Bool) : Lexeme :=
  if d.fraction.isEmpty ∧ d.exponent.isNone then
    if d.whole.length > 4300 then .tooLong d.whole.length
    else .atom (.int (if negative then -(natOf d.whole : Int) else natOf d.whole))
  else
    .atom (.float (Binary64.ofDecimal negative (natOf (d.whole ++ d.fraction))
      (d.exponent.getD 0 - d.fraction.length)))

def words : List (Text × Value) :=
  [("null".toList, .null), ("true".toList, .bool true), ("false".toList, .bool false),
    ("NaN".toList, .float .nan), ("Infinity".toList, .float (.infinite false)),
    ("-Infinity".toList, .float (.infinite true))]

/-- The lexeme a text starts with, and what follows it. -/
def next? (t : Text) : Option (Lexeme × Text) :=
  match t with
  | [] => none
  | c :: r =>
    if c = '[' then some (.openList, r)
    else if c = ']' then some (.closeList, r)
    else if c = '{' then some (.openMap, r)
    else if c = '}' then some (.closeMap, r)
    else if c = ',' then some (.comma, r)
    else if c = ':' then some (.colon, r)
    else if c = '"' then (textUnits r).map fun (us, rest) => (.text (joinUnits us), rest)
    else match words.find? fun w => w.1.isPrefixOf t with
      | some (word, v) => some (.atom v, t.drop word.length)
      | none =>
        if c = '-' then (digits? r).map fun d => (d.lexeme true, d.rest)
        else (digits? t).map fun d => (d.lexeme false, d.rest)

/-- All lexemes of a text. At most one is read for each of its characters. -/
def lexemesFrom : Nat → Text → List Lexeme
  | 0, _ => []
  | n + 1, t =>
    match t.dropWhile isGap with
    | [] => []
    | c :: r =>
      match next? (c :: r) with
      | some (l, rest) => l :: lexemesFrom n rest
      | none => [.bad]

def lexemes (t : Text) : List Lexeme := lexemesFrom (t.length + 1) t

end CitationStudio.Json
