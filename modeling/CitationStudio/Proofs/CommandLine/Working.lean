import CitationStudio.CommandLine.Run
import CitationStudio.Proofs.Lab.Run
import CitationStudio.Proofs.Render.Given
import CitationStudio.Proofs.Render.Resolved

/-! # How the work on a text ends

Marking, rendering, combining and parsing each end with a status and say so if something failed.
They crash instead at the troubles that they do not look for, and at no others: what is raised while
a renderer is imported, made or asked, a value that is not given where one is needed, a sample that
cannot be drawn, and the end of the stack. Each has its own troubles, stated along the way it
takes. -/

namespace CitationStudio.CommandLine

/-- A run that ends of its own accord: with a status for success or failure, or at words that mean
nothing. Of a failure it tells, either on the side or in the place of its output. -/
structure Run.Orderly (r : Run) : Prop where
  ended : ∀ e, r.ending ≠ .crashed e
  status : r.status ≤ 1 ∨ ∃ e, r.ending = .misused e
  told : r.status = 1 → r.ending = .help 1 ∨
    (∃ m, r.complaint = printed ("Error: ".toList ++ m)) ∨
    ∃ label ∈ ["Error: ", "Renderer error: "], ∃ m,
      r.ending = .finished 1 (printed (label.toList ++ m))

/-! ## Endings -/

/-- A run ends orderly unless there is a trouble, and crashes if there is. -/
structure Ends (r : Run) (trouble : Prop) : Prop where
  orderly : ¬ trouble → r.Orderly
  crashed : trouble → ∃ e, r.ending = .crashed e

variable {r : Run} {p q : Prop}

theorem Ends.congr (h : Ends r p) (hiff : p ↔ q) : Ends r q :=
  ⟨fun hq => h.orderly fun hp => hq (hiff.1 hp), fun hq => h.crashed (hiff.2 hq)⟩

/-- What else is noted does not change how a run ends. -/
theorem Ends.noted (h : Ends r p) (records : List Record) : Ends { r with records } p :=
  ⟨fun hn => ⟨(h.orderly hn).ended, (h.orderly hn).status, (h.orderly hn).told⟩, h.crashed⟩

theorem Ends.after (h : Ends r p) (records : List Record) : Ends (r.after records) p :=
  h.noted (records ++ r.records)

/-- What is raised in the place of a result. -/
def raised? {α : Type} : Except Render.Raised α → Option Render.Raised
  | .ok _ => none
  | .error e => some e

section Traversal

variable {α β : Type} {f : α → Except Render.Raised β}

end Traversal

/-! ## Marking -/

variable {m : Machine}

/-- What crashes rendering: a renderer that baffles; with the program's own one, the end of the
stack or a group that lacks a value; with a foreign one, what it raises, or what is raised where its
output is written. -/
inductive RenderTrouble (m : Machine) (o : Options) (s : Settings) (t : Text) : Prop
  | baffled : Render.Baffling m.modules s.renderer → RenderTrouble m o s t
  | exhausted : Render.resolve m.modules s.renderer = .ok .bracket →
      m.stack.rendering t o.values = false → RenderTrouble m o s t
  | stray {ps : List Part} : Render.resolve m.modules s.renderer = .ok .bracket →
      m.stack.rendering t o.values = true → Compiled.parse [] t = .ok ps →
      (Part.slotsAll ps).length ≤ o.values.length → Render.Strays ps o.values →
      RenderTrouble m o s t
  | raised {f : Render.Foreign} {e : Render.Raised} :
      Render.resolve m.modules s.renderer = .ok (.foreign f) → f.format t o.values = .error e →
      e.isExpected = false → RenderTrouble m o s t
  | unwritten {f : Render.Foreign} {out : Render.Output} {e : Render.Raised} :
      Render.resolve m.modules s.renderer = .ok (.foreign f) → f.format t o.values = .ok out →
      (if o.json then raised? out.value else raised? out.line) = some e → e.isExpected = false →
      RenderTrouble m o s t

section Rendering

variable (o : Options) (t : Text)

end Rendering

/-! ## Combining -/

namespace Options

/-- The arguments to combine. A name that is not given is shown as an empty list. -/
def arguments (o : Options) : List Text :=
  Lab.arguments (o.names.map fun name => name.getD "[]".toList)

/-- There is something to combine: a template, and an argument for it. -/
def Counts (o : Options) (t : Text) : Prop := t.isBlank = false ∧ o.arguments ≠ []

/-- The lab that shows the combinations. -/
def lab (o : Options) (stack : Stack) (s : Settings) (t : Text) (n : Render.Named) : Lab :=
  { Lab.new (n.renderer stack) s.maxCombinations s.overflow s.sampleBudget with
    template := t }.setArguments
      (o.names.map fun (name : Option Text) => name.getD "[]".toList)

section Lab

variable (o : Options) (stack : Stack) (s : Settings) (t : Text) (n : Render.Named)

end Lab

/-- What is raised where the output of a row is written. -/
def rowRaised? (o : Options) (n : Render.Named) (t : Text) (row : Lab.Row) :
    Option Render.Raised :=
  (rowOutput n t row).toOption.bind fun out =>
    if o.json then raised? out.value else raised? out.cell

end Options

/-- What crashes the showing of rows: the renderer leaves the program at one of them; or it leaves
it at none, and what is raised first where its outputs are written is not expected. -/
inductive RowTrouble (o : Options) (n : Render.Named) (t : Text) (count : Nat)
    (rows : List Lab.Row) : Prop
  | leaving {row : Lab.Row} {e : Render.Raised} :
      row ∈ rows → rowOutput n t row = .error e → RowTrouble o n t count rows
  | unwritten {e : Render.Raised} : (∀ row ∈ rows, raised? (rowOutput n t row) = none) →
      (o.json = false → Numeral.isWritable count = true) →
      rows.findSome? (o.rowRaised? n t) = some e → e.isExpected = false →
      RowTrouble o n t count rows

/-- What crashes combining: a renderer that baffles, a cap that is not given where there is
something to count, a sample of more choices than can be numbered, or a trouble with the rows. -/
inductive CombineTrouble (m : Machine) (o : Options) (s : Settings) (t : Text) : Prop
  | baffled : Render.Baffling m.modules s.renderer → CombineTrouble m o s t
  | noCap {n : Render.Named} : Render.resolve m.modules s.renderer = .ok n → o.Counts t →
      o.maxCombinations = some none → CombineTrouble m o s t
  | population {n : Render.Named} : Render.resolve m.modules s.renderer = .ok n →
      t.isBlank = false → o.maxCombinations ≠ some none → s.overflow = .sample →
      64 ≤ o.arguments.length → s.maxCombinations < (Nat.pow 2 o.arguments.length - 1 : Nat) →
      CombineTrouble m o s t
  | rows {n : Render.Named} {rows : List Lab.Row} :
      Render.resolve m.modules s.renderer = .ok n →
      (o.Counts t → o.maxCombinations ≠ some none) →
      (o.lab m.stack s t n).rows (m.draw s.sampleSeed) = .ok rows →
      RowTrouble o n t (o.lab m.stack s t n).count rows → CombineTrouble m o s t

section Combining

variable {o : Options} {s : Settings} {t : Text} {n : Render.Named}

end Combining

/-! ## Parsing -/

/-- What crashes parsing a compiled template: the end of the stack, or a name that is not given
where names are put together. -/
inductive ParseTrouble (m : Machine) (o : Options) (t : Text) : Prop
  | exhausted : o.compiled = true → m.stack.template t = false → ParseTrouble m o t
  | parts {ps : List Part} : o.compiled = true → m.stack.template t = true →
      Compiled.parse (o.names.map fun name => name.getD []) t = .ok ps →
      m.stack.parts ps = false → ParseTrouble m o t
  | stray {ps : List Part} : o.compiled = true → m.stack.template t = true →
      Compiled.parse (o.names.map fun name => name.getD []) t = .ok ps →
      m.stack.parts ps = true → Render.Strays ps (o.names.map fun name => name.map some) ∨
        o.json = false ∧ (∃ i < (Part.slotsAll ps).length, o.names[i]? = some none) →
      ParseTrouble m o t

theorem ParseTrouble.compiled {o : Options} {t : Text} (h : ParseTrouble m o t) :
    o.compiled = true := by
  cases h with
  | exhausted h | parts h | stray h => exact h

namespace Options

def Renders (o : Options) : Prop := o.marks = [] ∧ o.values ≠ []

def Combines (o : Options) : Prop := o.marks = [] ∧ o.values = [] ∧ o.combos = true

def Parses (o : Options) : Prop := o.marks = [] ∧ o.values = [] ∧ o.combos = false

end Options

inductive WorkTrouble (m : Machine) (o : Options) (s : Settings) (t : Text) : Prop
  | rendering : o.Renders → RenderTrouble m o s t → WorkTrouble m o s t
  | combining : o.Combines → CombineTrouble m o s t → WorkTrouble m o s t
  | parsing : o.Parses → ParseTrouble m o t → WorkTrouble m o s t

end CitationStudio.CommandLine
