import CitationStudio.Text.Basic

/-! Numbers that have been picked, each once and in ascending order. -/

namespace CitationStudio

abbrev Picks := List Int

namespace Picks

def insert (n : Int) : Picks → Picks
  | [] => [n]
  | m :: ms => if n < m then n :: m :: ms else if n = m then m :: ms else m :: insert n ms

def ofList (ns : List Int) : Picks := ns.foldr insert []

def toggle (p : Picks) (n : Int) : Picks := if n ∈ p then p.erase n else p.insert n

/-- The first and last of two or more numbers in a row. -/
def run? (p : Picks) : Option (Int × Int) :=
  match p.head?, p.getLast? with
  | some first, some last =>
    if 2 ≤ p.length ∧ last - first = (p.length : Int) - 1 then some (first, last) else none
  | _, _ => none

end Picks

end CitationStudio
