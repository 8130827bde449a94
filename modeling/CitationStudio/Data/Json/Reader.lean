import CitationStudio.Data.Json.Lexeme

/-! Reading a JSON text, by one pass over its lexemes with a stack of the lists and maps that
are still open. No more than so many may be open at once; one more is not read, whatever is in it. A
key that comes twice in a map keeps its first place and its last value. -/

namespace CitationStudio.Json

inductive Failure where
  | malformed
  | tooLong (digits : Nat)
  /-- One list or map more is opened than may be open. -/
  | tooDeep (inMap : Bool)
  deriving Repr, DecidableEq, Inhabited

def Failure.message : Failure → Text
  | .malformed => "malformed".toList
  | .tooLong digits =>
    "Exceeds the limit (4300 digits) for integer string conversion: value has ".toList ++
      Text.ofNat digits ++
      " digits; use sys.set_int_max_str_digits() to increase the limit".toList
  | .tooDeep inMap =>
    "maximum recursion depth exceeded while decoding a JSON ".toList ++
      (if inMap then "object" else "array").toList ++ " from a unicode string".toList

/-- A list or map that is still open: its latest items first, or its entries and the key whose
value is being read. -/
inductive Frame where
  | items (done : List Value)
  | entries (done : List (Value × Value)) (key : Value)

/-- What may come next, with the open lists and maps, innermost first. -/
inductive State where
  | value (stack : List Frame)
  | firstItem (stack : List Frame)
  | key (first : Bool) (done : List (Value × Value)) (stack : List Frame)
  | colon (key : Value) (done : List (Value × Value)) (stack : List Frame)
  | ended (v : Value) (stack : List Frame)

/-- A lexeme where a value has to start, inside the lists and maps of the stack. -/
def startValue (limit : Nat) (stack : List Frame) : Lexeme → Except Failure State
  | .openList => if stack.length < limit then .ok (.firstItem stack) else .error (.tooDeep false)
  | .openMap => if stack.length < limit then .ok (.key true [] stack) else .error (.tooDeep true)
  | .text rs => .ok (.ended (.ofRunes rs) stack)
  | .atom v => .ok (.ended v stack)
  | .tooLong digits => .error (.tooLong digits)
  | _ => .error .malformed

/-- A lexeme after a value inside a list or map. -/
def afterValue (v : Value) : List Frame → Lexeme → Except Failure State
  | .items done :: stack, .comma => .ok (.value (.items (v :: done) :: stack))
  | .items done :: stack, .closeList => .ok (.ended (.list (v :: done).reverse) stack)
  | .entries done key :: stack, .comma =>
    .ok (.key false (Value.insertEntry done key v) stack)
  | .entries done key :: stack, .closeMap =>
    .ok (.ended (.map (Value.insertEntry done key v)) stack)
  | _, _ => .error .malformed

def State.step (limit : Nat) : State → Lexeme → Except Failure State
  | .value stack, l => startValue limit stack l
  | .firstItem stack, .closeList => .ok (.ended (.list []) stack)
  | .firstItem stack, l => startValue limit (.items [] :: stack) l
  | .key true done stack, .closeMap => .ok (.ended (.map done) stack)
  | .key _ done stack, .text rs => .ok (.colon (.ofRunes rs) done stack)
  | .colon k done stack, .colon => .ok (.value (.entries done k :: stack))
  | .ended v stack, l => afterValue v stack l
  | _, _ => .error .malformed

def State.run (limit : Nat) (s : State) : List Lexeme → Except Failure Value
  | [] =>
    match s with
    | .ended v [] => .ok v
    | _ => .error .malformed
  | l :: ls =>
    match s.step limit l with
    | .ok s' => s'.run limit ls
    | .error f => .error f

/-- The value a text spells, if no more than so many lists and maps are open at once. -/
def parse (limit : Nat) (t : Text) : Except Failure Value :=
  (State.value []).run limit (lexemes t)

example : parse 2 "[1, \x7b\"a\": true\x7d]".toList =
    .ok (.list [.int 1, .map [(.string ['a'], .bool true)]]) := by rfl
example : parse 2 "[1,]".toList = .error .malformed := by rfl
example : parse 2 "[[[,".toList = .error (.tooDeep false) := by rfl

end CitationStudio.Json
