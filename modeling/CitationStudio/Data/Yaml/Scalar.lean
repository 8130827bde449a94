import CitationStudio.Data.Octets
import CitationStudio.Data.Yaml.Tag
import CitationStudio.Data.Yaml.Timestamp
import CitationStudio.Number.Decimal
import CitationStudio.Text.Lower

/-! Scalars: what sort of value a text without a tag looks like, and the value of a text of a given
sort. The two do not ask for the same: a text may look like a value of its sort and be none, and
more texts are read as values of a sort than look like them. -/

namespace CitationStudio.Yaml.Scalar

/-! ## What a text looks like -/

/-- Each word as it is, with a capital, and in capitals. -/
def spellings (words : List Text) : List Text :=
  words.flatMap fun t => [t, t.head?.toList.map Char.toUpper ++ t.drop 1, t.map Char.toUpper]

def trueWords : List Text := ["yes", "true", "on"].map String.toList

def falseWords : List Text := ["no", "false", "off"].map String.toList

def nullWords : List Text := [] :: ['~'] :: spellings ["null".toList]

def pointed (words : List String) : List Text := words.map fun w => '.' :: w.toList

def dropSign : Text → Text
  | '-' :: t => t
  | '+' :: t => t
  | t => t

/-- Digits of a base and underscores, at least one of them. -/
def isRun (base : Nat) (t : Text) : Bool :=
  !t.isEmpty && t.all fun c => (Cursor.hexValue? c).any (· < base) || c = '_'

/-- Decimal digits and underscores, a digit in front. -/
def isNumber (t : Text) : Bool := (t.head?.any Char.isDigit) && isRun 10 t

/-- The stretches of runes between colons. -/
def colonParts : Runes → List Runes
  | [] => [[]]
  | r :: rs =>
    if r = .char ':' then [] :: colonParts rs
    else match colonParts rs with
      | [] => [[r]]
      | p :: ps => (r :: p) :: ps

/-- One or two digits below sixty. -/
def isSixtieth (t : Text) : Bool :=
  match t with
  | [a] => a.isDigit
  | [a, b] => '0' ≤ a && a ≤ '5' && b.isDigit
  | _ => false

/-- A number and sixtieths behind it, with colons between them. -/
def isSixties (t : Text) : Bool :=
  match (colonParts (.ofText t)).map Runes.text with
  | p :: q :: ps => isNumber p && (q :: ps).all isSixtieth
  | _ => false

def looksWhole (t : Text) : Bool :=
  let u := dropSign t
  match u with
  | '0' :: 'b' :: r => isRun 2 r
  | '0' :: 'x' :: r => isRun 16 r
  | ['0'] => true
  | '0' :: r => isRun 8 r
  | u => isNumber u || (isSixties u)

/-- An exponent with its sign, or nothing. -/
def isExponent : Text → Bool
  | [] => true
  | e :: s :: ds =>
    (e = 'e' || e = 'E') && (s = '-' || s = '+') && !ds.isEmpty && ds.all Char.isDigit
  | _ => false

/-- A number with a point has digits before it, and may then have a sign, or right behind it. -/
def looksFractional (t : Text) : Bool :=
  let u := dropSign t
  let whole := u.takeWhile (· ≠ '.')
  match u.drop whole.length with
  | '.' :: r =>
    let fraction := r.takeWhile fun c => c.isDigit || c = '_'
    let after := r.drop fraction.length
    if whole.isEmpty then
      (pointed ["inf", "Inf", "INF"]).contains u || (pointed ["nan", "NaN", "NAN"]).contains t ||
        (u.length = t.length && isNumber fraction && isExponent after)
    else if isNumber whole then isExponent after
    else isSixties whole && after.isEmpty
  | _ => false

/-- The sort of value that a text looks like. A line feed at its end does not count, unless it is
all there is. -/
def look (t : Text) : Tag :=
  let t := if t.length ≠ 1 ∧ t.getLast? = some '\n' then t.dropLast else t
  if (spellings (trueWords ++ falseWords)).contains t then .bool
  else if looksFractional t then .float
  else if looksWhole t then .int
  else if t = ['<', '<'] then .merge
  else if nullWords.contains t then .null
  else if (Timestamp.ofText? t).any Timestamp.isPlain ∧ t.getLast? ≠ some '\n' then .timestamp
  else if t = ['='] then .standIn
  else if t = ['!'] ∨ t = ['&'] ∨ t = ['*'] then .other
  else .text

/-- The sort of value that runes look like; a broken text looks like nothing but itself. -/
def tagOf (rs : Runes) : Tag :=
  match rs.text? with
  | some t => look t
  | none => .text

/-! ## The value of a text -/

/-- A numeral that is read in a base. -/
def intIn (base : Nat) (rs : Runes) : Except Failure Int :=
  match Numeral.intIn base rs.text with
  | .ok n => .ok n
  | .error .noNumeral => .error (.noNumeral base rs)
  | .error (.tooLong digits) => .error (.longNumeral digits)

def dropUnderscores (rs : Runes) : Runes := rs.filter (· ≠ .char '_')

/-- Whether a minus sign stands in front, and what follows the sign. -/
def signed : Runes → Bool × Runes
  | .char '-' :: rs => (true, rs)
  | .char '+' :: rs => (false, rs)
  | rs => (false, rs)

/-- A whole number without its sign. What stands in front says the base; behind a nought, that is
eight. -/
def magnitude (rs : Runes) : Except Failure Int :=
  match rs with
  | [] => .error .emptyNumeral
  | [.char '0'] => .ok 0
  | .char '0' :: .char 'b' :: r => intIn 2 r
  | .char '0' :: .char 'x' :: r => intIn 16 r
  | .char '0' :: _ => intIn 8 rs
  | _ =>
    if rs.contains (.char ':') then
      ((colonParts rs).mapM (intIn 10)).map fun ns => ns.foldl (fun n d => 60 * n + d) 0
    else intIn 10 rs

def int (rs : Runes) : Except Failure Int :=
  let rs := dropUnderscores rs
  if rs.isEmpty then .error .emptyNumeral
  else
    let (negative, rs) := signed rs
    (magnitude rs).map fun n => if negative then -n else n

def decimal (rs : Runes) : Except Failure Binary64 :=
  match Decimal.read? rs.text with
  | some x => .ok x
  | none => .error (.noFloat rs)

/-- Adds up numbers, each sixty times as much as the one before it. Each step is rounded. -/
def addSixties (sum : Binary64) (unit : Nat) : List Binary64 → Except Failure Binary64
  | [] => .ok sum
  | x :: xs =>
    match Binary64.ofNat? unit with
    | none => .error .hugeNumber
    | some u => addSixties (sum.add (x.mul u)) (unit * 60) xs

def float (rs : Runes) : Except Failure Binary64 :=
  let rs := Text.lower (dropUnderscores rs)
  if rs.isEmpty then .error .emptyNumeral
  else
    let (negative, rs) := signed rs
    let read : Except Failure Binary64 :=
      if rs = .ofText ".inf".toList then .ok (.infinite false)
      else if rs = .ofText ".nan".toList then .ok .nan
      else if rs.contains (.char ':') then
        ((colonParts rs).mapM decimal).bind fun xs =>
          addSixties (.finite false 0 (-1074)) 1 xs.reverse
      else decimal rs
    read.map fun x => if negative then x.neg else x

/-- Is a number that is none the one that all scalars of this spelling share? -/
def isSharedNan (rs : Runes) : Bool :=
  (signed (Text.lower (dropUnderscores rs))).2 == .ofText ".nan".toList

def bool (rs : Runes) : Except Failure Bool :=
  let rs := Text.lower rs
  if (trueWords.map Runes.ofText).contains rs then .ok true
  else if (falseWords.map Runes.ofText).contains rs then .ok false
  else .error (.noTruth rs)

def timestamp (rs : Runes) : Except Failure Value :=
  match rs.text?.bind Timestamp.ofText? with
  | some s => s.value
  | none => .error .noTimestamp

def octets (rs : Runes) : Except Failure Value :=
  match rs.text? with
  | none => .error .malformed
  | some t =>
    if t.all fun c => c.toNat < 128 then
      match Octets.read? t with
      | some bs => .ok (.octets bs)
      | none => .error .malformed
    else .error .malformed

/-- The value of a scalar of a sort. Sorts of lists and maps, and those without values, have
none. -/
def value (tag : Tag) (rs : Runes) : Except Failure Value :=
  match tag with
  | .null => .ok .null
  | .bool => (bool rs).map .bool
  | .int => (int rs).map .int
  | .float => (float rs).map .float
  | .octets => octets rs
  | .timestamp => timestamp rs
  | .text => .ok (.ofRunes rs)
  | _ => .error .malformed

end CitationStudio.Yaml.Scalar
