import CitationStudio.Data.Moment
import CitationStudio.Number.Binary64
import CitationStudio.Number.Numeral
import CitationStudio.Text.Rune

/-! Values of data files: what a settings file or a message holds before anyone has looked at
its meaning. A map keeps the order of its entries. Each value has two texts: `shown`, which
tells a text from the number it spells, and `text`, which is the text itself for a text. -/

namespace CitationStudio

inductive Value where
  | null
  | bool (b : Bool)
  | int (n : Int)
  | float (x : Binary64)
  | string (t : Text)
  /-- A text with halves of characters in it. -/
  | broken (rs : Runes)
  | octets (bs : List UInt8)
  | date (year month day : Nat)
  | moment (m : Moment)
  | list (items : List Value)
  | pair (first second : Value)
  | set (items : List Value)
  | map (entries : List (Value × Value))
  /-- The list, or the map, that this place is in, once more. -/
  | again (inMap : Bool)
  deriving Repr, Inhabited

namespace Value

mutual
def beq : Value → Value → Bool
  | null, null => true
  | bool b, bool b' => b == b'
  | int n, int n' => n == n'
  | float x, float x' => x == x'
  | string t, string t' => t == t'
  | broken rs, broken rs' => rs == rs'
  | octets bs, octets bs' => bs == bs'
  | date y m d, date y' m' d' => y == y' && m == m' && d == d'
  | moment m, moment m' => m == m'
  | list items, list items' => beqItems items items'
  | pair v w, pair v' w' => beq v v' && beq w w'
  | set items, set items' => beqItems items items'
  | map entries, map entries' => beqEntries entries entries'
  | again b, again b' => b == b'
  | _, _ => false

def beqItems : List Value → List Value → Bool
  | [], [] => true
  | v :: vs, w :: ws => beq v w && beqItems vs ws
  | _, _ => false

def beqEntry : Value × Value → Value × Value → Bool
  | (k, v), (k', v') => beq k k' && beq v v'

def beqEntries : List (Value × Value) → List (Value × Value) → Bool
  | [], [] => true
  | e :: es, f :: fs => beqEntry e f && beqEntries es fs
  | _, _ => false
end

instance : BEq Value := ⟨beq⟩

def ofRunes (rs : Runes) : Value :=
  match rs.text? with
  | some t => string t
  | none => broken rs

def shownDate (year month day : Nat) : Text :=
  "datetime.date(".toList ++ Text.ofNat year ++ ", ".toList ++ Text.ofNat month ++ ", ".toList ++
    Text.ofNat day ++ [')']

/-- An octet between quotation marks. -/
def shownOctet (mark : Char) (b : UInt8) : Text :=
  let c := Char.ofNat b.toNat
  if b < 0x7f then Text.quotedChar mark c else '\\' :: 'x' :: Text.hexDigits 2 b.toNat

def shownOctets (bs : List UInt8) : Text :=
  let mark := Text.quoteMark (bs.map fun b => Char.ofNat b.toNat)
  'b' :: mark :: bs.flatMap (shownOctet mark) ++ [mark]

mutual
/-- The text that shows what sort of value this is. -/
def shown : Value → Text
  | null => "None".toList
  | bool true => "True".toList
  | bool false => "False".toList
  | int n => Text.ofInt n
  | float x => x.text
  | string t => t.quoted
  | broken rs => rs.quoted
  | octets bs => shownOctets bs
  | date y m d => shownDate y m d
  | moment m => m.shown
  | list items => '[' :: shownItems items ++ [']']
  | pair v w => '(' :: shown v ++ ", ".toList ++ shown w ++ [')']
  | set [] => "set()".toList
  | set (v :: vs) => '{' :: shownItems (v :: vs) ++ ['}']
  | map entries => '{' :: shownEntries entries ++ ['}']
  | again false => "[...]".toList
  | again true => "\x7b...\x7d".toList

def shownItems : List Value → Text
  | [] => []
  | [v] => v.shown
  | v :: w :: vs => v.shown ++ ", ".toList ++ shownItems (w :: vs)

def shownEntry : Value × Value → Text
  | (k, v) => k.shown ++ ": ".toList ++ v.shown

def shownEntries : List (Value × Value) → Text
  | [] => []
  | [e] => shownEntry e
  | e :: f :: es => shownEntry e ++ ", ".toList ++ shownEntries (f :: es)
end

def text : Value → Text
  | string t => t
  | broken rs => rs.joined
  | date y m d => zeroPadded 4 y ++ '-' :: zeroPadded 2 m ++ '-' :: zeroPadded 2 d
  | moment m => m.text
  | v => v.shown

/-- The runes of the text of a value. -/
def runes : Value → Runes
  | broken rs => rs
  | v => .ofText v.text

def quotedText : Value → Text
  | broken rs => rs.quoted
  | v => v.text.quoted

mutual
def isWritable : Value → Bool
  | int n => Numeral.isWritable n
  | list items | set items => areWritable items
  | pair v w => v.isWritable && w.isWritable
  | map entries => entriesWritable entries
  | _ => true

def areWritable : List Value → Bool
  | [] => true
  | v :: vs => v.isWritable && areWritable vs

def entryWritable : Value × Value → Bool
  | (k, v) => k.isWritable && v.isWritable

def entriesWritable : List (Value × Value) → Bool
  | [] => true
  | e :: es => entryWritable e && entriesWritable es
end

def lookup? (key : Text) : List (Value × Value) → Option Value
  | [] => none
  | (k, v) :: es =>
    match k with
    | string t => if t = key then some v else lookup? key es
    | _ => lookup? key es

/-- Adds an entry. A key that is there already keeps its place and takes the new value. -/
def insertEntry (entries : List (Value × Value)) (k v : Value) : List (Value × Value) :=
  match entries with
  | [] => [(k, v)]
  | (k', v') :: es => if k' == k then (k', v) :: es else (k', v') :: insertEntry es k v

end Value

end CitationStudio
