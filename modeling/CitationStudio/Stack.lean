import CitationStudio.Data.Value
import CitationStudio.Render.Given

/-! How far the stack of the machine reaches. Work on what is inside of something takes the more
of it the deeper that is, and fails where there is none left. In a JSON text the depth alone
decides. Elsewhere it also matters what is met on the way, so each thing has its own answer. -/

namespace CitationStudio

structure Stack where
  /-- How many lists and maps of a JSON text may be open at once. -/
  json : Nat
  /-- Does it suffice to read a YAML text? -/
  yaml : Text → Bool
  /-- Does it suffice to make a text of a value? -/
  text : Value → Bool
  /-- Does it suffice to show a value in a warning? -/
  warning : Value → Bool
  /-- Does it suffice to read a compiled template? -/
  template : Text → Bool
  /-- Does it suffice to name, show and compile parts? -/
  parts : List Part → Bool
  /-- Does it suffice to render a compiled template? -/
  rendering : Text → List Render.Given → Bool
  /-- What the lab says of it in a row, unless it suffices to render it there. -/
  preview : Text → List Render.Filling → Option Text

namespace Stack

def complaint : Text := "maximum recursion depth exceeded".toList

/-- A stack that suffices for what is written by hand. -/
def usual : Stack where
  json := 900
  yaml _ := true
  text _ := true
  warning _ := true
  template _ := true
  parts _ := true
  rendering _ _ := true
  preview _ _ := none

end Stack

end CitationStudio
