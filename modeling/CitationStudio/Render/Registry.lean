import CitationStudio.Lab.Basic
import CitationStudio.Stack

/-! Renderers by name. A built-in one has a short name. Any other name is a dotted path: a module
and, after the last dot, what the module holds under that name, which is made with no arguments.
What there is to import is not known here, and is asked for. What is made need not render anything:
that shows when it is asked to. -/

namespace CitationStudio.Render

/-! ## What is not the program's own -/

/-- How the program tells apart what is raised. -/
inductive Raised.Kind where
  /-- There is no such module, or nothing under such a name. -/
  | lacking
  /-- A renderer does not render a template. -/
  | unrendered
  | badValue
  /-- Any other failure. -/
  | other
  /-- No failure, but an end of the program. -/
  | leaving
  deriving Repr, DecidableEq, Inhabited

structure Raised where
  kind : Raised.Kind
  message : Text
  deriving Repr, DecidableEq, Inhabited

/-- Does the program expect it wherever it works on a text? -/
def Raised.isExpected (e : Raised) : Bool := e.kind = .unrendered || e.kind = .badValue

/-- What a renderer gives, by what comes of writing it: as a line, as a JSON value, and in a cell of
a table. -/
structure Output where
  line : Except Raised Text
  value : Except Raised Value
  cell : Except Raised Text

def Output.ofText (t : Text) : Output := ⟨.ok t, .ok (.string t), .ok t⟩

/-- What was made, if it is not the program's own renderer. -/
structure Foreign where
  className : Text
  name : Option Text
  /-- Whatever can format counts as a renderer. -/
  isRenderer : Bool
  /-- What comes of formatting a template with values. -/
  format : Text → List Given → Except Raised Output
  /-- The same with what comes to nothing in place of what counts as nothing. -/
  preview : Text → List Filling → Except Raised Output

/-- What a name stands for. -/
inductive Named where
  | bracket
  | foreign (f : Foreign)

/-- What there is at a path of a module, under a name in it. -/
inductive Found where
  /-- The module is not imported, or holds nothing under the name. -/
  | unfound (e : Raised)
  /-- What it holds cannot be made without arguments. -/
  | unmade (e : Raised)
  | made (n : Named)

/-- All that can be imported. -/
abbrev Modules := Runes → Runes → Found

/-! ## Names -/

def bracketName : Text := "bracket".toList

namespace Named

def className : Named → Text
  | bracket => "BracketRenderer".toList
  | foreign f => f.className

def name : Named → Option Text
  | bracket => some bracketName
  | foreign f => f.name

def isRenderer : Named → Bool
  | bracket => true
  | foreign f => f.isRenderer

def renderer (stack : Stack) : Named → Renderer
  | bracket => fun template values =>
    match stack.preview template values with
    | none => Renderer.bracket template values
    | some complaint => .error complaint
  | foreign f => fun template values =>
    match f.preview template values with
    | .ok out => .ok (out.cell.toOption.getD [])
    | .error e => .error e.message

end Named

inductive ResolveError where
  | unknown (name : Runes)
  | unfound (name : Runes) (reason : Text)
  /-- The path starts with a dot, and there is nothing that it is relative to. -/
  | relative (path : Runes)
  | raised (e : Raised)
  deriving Repr, DecidableEq, Inhabited

namespace ResolveError

def message : ResolveError → Text
  | unknown name =>
    "Unknown renderer '".toList ++ name.written ++ "'. Built-in renderers: bracket.".toList
  | unfound name reason =>
    "Cannot import renderer '".toList ++ name.written ++ "': ".toList ++ reason
  | relative path =>
    "the 'package' argument is required to perform a relative import for ".toList ++ path.quoted
  | raised e => e.message

/-- Does a caller expect that a name stands for no renderer for this reason? -/
def isExpected : ResolveError → Bool
  | unknown _ | unfound _ _ => true
  | relative _ => false
  | raised e => e.isExpected

end ResolveError

abbrev dot : Rune := .char '.'

/-- A text before its last dot, and what follows the dot. -/
def splitLast (t : Runes) : Runes × Runes :=
  let after := (t.reverse.takeWhile (· ≠ dot)).reverse
  (t.take (t.length - after.length - 1), after)

/-- What a name stands for. -/
def resolve (modules : Modules) (name : Runes) : Except ResolveError Named :=
  if name = .ofText bracketName then .ok .bracket
  else
    let (path, member) := splitLast name
    if path.isEmpty then .error (.unknown name)
    else if path.head? = some dot then .error (.relative path)
    else match modules path member with
      | .unfound e =>
        if e.kind = .lacking then .error (.unfound name e.message) else .error (.raised e)
      | .unmade e => .error (.raised e)
      | .made n => .ok n

end CitationStudio.Render
