import CitationStudio.Text.Wrap

/-! What the program notes while it works: how much it matters, which part of the program says
it, and what. A record is written behind a margin of nine cells, in which its level stands. -/

namespace CitationStudio.CommandLine

def screenWidth : Nat := 400

inductive Level where
  | debug | info | warning
  deriving Repr, DecidableEq, Inhabited

def Level.name : Level → Text
  | debug => "DEBUG".toList
  | info => "INFO".toList
  | warning => "WARNING".toList

structure Record where
  level : Level
  source : Text
  message : Text
  deriving Repr, DecidableEq, Inhabited

namespace Record

def margin : Nat := 9

/-- The lines of a record, without the blanks at their ends. -/
def lines (r : Record) : List Text :=
  let body := Text.wrap (screenWidth - margin) true (r.source ++ ": ".toList ++ r.message)
  body.zipIdx.map fun (l, i) =>
    Text.stripEnd (Text.padEnd margin (if i = 0 then r.level.name else []) ++ l)

/-- Is a record shown? All of them are if the program is to be verbose. -/
def isShown (verbose : Bool) (r : Record) : Bool := verbose || r.level = .warning

end Record

/-- A text on the terminal, broken where it is too wide. -/
def printed (t : Text) : List Text := Text.wrap screenWidth true t

end CitationStudio.CommandLine
