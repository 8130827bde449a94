import CitationStudio.Data.Value

/-! The order in which a set shows its members. A set keeps them in a ring of places, at least
twice as many as there are members. A number goes to the place of its remainder modulo a prime, or,
if that one is taken, to places that lie apart from it in a fixed way. Members that are no numbers
have no places of this kind; a set with such members keeps their order. -/

namespace CitationStudio.NumberSet

/-- The prime whose remainders are taken. A power of two is one of its first 61 powers. -/
def prime : Nat := Nat.pow 2 61 - 1

/-- The remainder of a number's size under the number's sign; minus one is not used. -/
def signed (negative : Bool) (remainder : Nat) : Int :=
  if !negative then remainder else if remainder = 1 then -2 else -(remainder : Int)

def remainder? : Value → Option Int
  | .bool b => some (if b then 1 else 0)
  | .int n => some (signed (n < 0) (n.natAbs % prime))
  | .float (.finite negative m e) =>
    some (signed negative (m * Nat.pow 2 (e.emod 61).toNat % prime))
  | .float (.infinite negative) => some (if negative then -314159 else 314159)
  | _ => none

/-- How many places a ring has for so many members. -/
def ringSize (members : Nat) : Nat :=
  if members * 5 < 21 then 8 else Nat.pow 2 (Nat.log2 (members * 2) + 1)

def isFree (ring : List (Option Value)) (place : Nat) : Bool :=
  match ring[place]? with
  | some none => true
  | _ => false

/-- A free place near a place: the place itself, or one of the nine behind it if all of them are in
the ring. -/
def freeNear? (ring : List (Option Value)) (place : Nat) : Option Nat :=
  let reach := if place + 9 < ring.length then 10 else 1
  (List.range' place reach).find? (isFree ring)

/-- The first free place for a number. The bits of its remainder decide where to look next. -/
def freePlace? (ring : List (Option Value)) : Nat → Nat → Nat → Option Nat
  | 0, _, _ => none
  | n + 1, place, bits =>
    match freeNear? ring place with
    | some i => some i
    | none =>
      let bits := bits / 32
      freePlace? ring n ((place * 5 + 1 + bits) % ring.length) bits

def put (ring : List (Option Value)) (v : Value) (remainder : Int) : List (Option Value) :=
  let bits := (remainder.emod (Nat.pow 2 64 : Nat)).toNat
  match freePlace? ring (ring.length + 16) (bits % ring.length) bits with
  | some i => ring.set i (some v)
  | none => ring ++ [some v]

/-- The members of a set in the order in which they are shown. -/
def arrange (members : List Value) : List Value :=
  match members.mapM remainder? with
  | none => members
  | some remainders =>
    let ring := List.replicate (ringSize members.length) none
    ((members.zip remainders).foldl (fun ring (v, r) => put ring v r) ring).filterMap id

example : arrange [.int 9, .int 1, .int (-1)] = [.int 9, .int 1, .int (-1)] := by rfl

end CitationStudio.NumberSet
