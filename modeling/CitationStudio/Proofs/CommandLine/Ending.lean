import CitationStudio.Proofs.CommandLine.Working
import CitationStudio.Proofs.Settings.Failing

/-! # How a run of the program ends

A run that does not end on the screen has a status of its own, and says so if something failed. It
crashes instead at the troubles that no stage of it looks for, and at no others: those of loading,
of the choice of what to do, and of the work on the text. A stage is only reached if those before it
went through, so the troubles of a run are stated along the way it takes. All this holds on any
machine: how far its stack reaches and what there is to import decides which troubles are met. -/

namespace CitationStudio.CommandLine

variable {m : Machine}

/-- The settings are loaded, and the command line has had its say in them. -/
structure Loads (m : Machine) (disk : Disk) (home folder : Path) (o : Options) (s : Settings) :
    Prop where
  clear : (Settings.load m.stack disk home folder o.config.join).failure = none
  given : o.config ≠ some none
  settings : s = o.override (Settings.load m.stack disk home folder o.config.join).report.settings

/-- What crashes a run whose settings are loaded: they are to be shown, and a number in them or the
name of the renderer cannot be written, or the work on the text crashes. -/
inductive LateTrouble (m : Machine) (input : Text) (o : Options) (s : Settings) : Prop
  | unwritable : o.verbose = false → o.env = true → s.isWritable o.isCapped = false →
      LateTrouble m input o s
  | broken : o.env = true → s.isWritable o.isCapped = true → s.renderer.text? = none →
      LateTrouble m input o s
  | work {t : Text} : (o.verbose = true → s.isWritable o.isCapped = true) → o.env = false →
      o.subject input = some t → WorkTrouble m o s t → LateTrouble m input o s

/-- What crashes a run: loading is upset, the settings are to come from a file and none is given, or
there is a trouble once they are loaded. -/
inductive Trouble (m : Machine) (disk : Disk) (home folder : Path) (input : Text) (o : Options) :
    Prop
  | loading : Settings.Upset m.stack disk home folder o.config.join →
      Trouble m disk home folder input o
  | noFile : (Settings.load m.stack disk home folder none).failure = none →
      o.config = some none → Trouble m disk home folder input o
  | late {s : Settings} : Loads m disk home folder o s → LateTrouble m input o s →
      Trouble m disk home folder input o

/-- A machine with the usual stack, on which there is nothing to import. -/
def Machine.bare : Machine where
  stack := .usual
  modules path _ := .unfound ⟨.lacking, "No module named ".toList ++ path.quoted⟩
  draw _ _ _ := []

end CitationStudio.CommandLine
