import CitationStudio.CommandLine.Help
import CitationStudio.CommandLine.Run
import CitationStudio.Lab.Draw
import CitationStudio.Render.Catalogue
import CitationStudio.Screen.Dialogue

/-! The program: it looks at the files that settings may be in, runs the command line on what it
finds, and writes out how the run ends. -/

namespace CitationStudio.Terminal

/-- What a path leads to. What cannot be read is treated as a folder is. -/
def look (p : Path) : IO Content := do
  try
    return .file (← IO.FS.readBinFile (String.ofList p.text)).toList
  catch
    | .noFileOrDirectory .. => return .missing
    | .inappropriateType _ 20 _ => return .blocked
    | _ => return .folder

def lookAll (places : List Path) : IO Disk := do
  let seen ← places.mapM fun p => return (p, ← look p)
  return fun p => (seen.lookup p).getD .missing

def folderNamed (name : Option String) : Path := Path.ofText (name.getD "/").toList

def readInput : IO Text := do
  let octets ← (← IO.getStdin).readBinToEnd
  match Text.ofOctets? octets.toList with
  | some t => return t.unifyBreaks
  | none => throw (IO.userError "the input is not a text")

def write (out : IO.FS.Stream) (lines : List Text) : IO Unit :=
  lines.forM fun l => out.putStrLn (String.ofList l)

/-- Works a screen line by line until the input ends. -/
partial def converse (draw : Nat → Nat → List Nat) (s : Screen) : IO Unit := do
  let line ← (← IO.getStdin).getLine
  if line.isEmpty then return
  let (s, said) := s.turn draw (line.toList.filter fun c => c != '\n' && c != '\r')
  write (← IO.getStdout) said
  converse draw s

def openScreen (m : CommandLine.Machine) (seed : Text) (settings : Settings) : IO UInt32 := do
  match Render.resolve m.modules settings.renderer with
  | .error e =>
    write (← IO.getStderr) [e.message]
    return 1
  | .ok n =>
    let lab := Lab.new (n.renderer m.stack) settings.maxCombinations settings.overflow
      settings.sampleBudget
    let s := Screen.start seed lab (some settings.historyLimit)
    write (← IO.getStdout) s.shown
    converse (m.draw settings.sampleSeed) s
    return 0

def finish (m : CommandLine.Machine) (r : CommandLine.Run) : IO UInt32 := do
  let out ← IO.getStdout
  let err ← IO.getStderr
  write err r.asides
  match r.ending with
  | .help _ => write out CommandLine.Help.lines
  | .misused e => write err (CommandLine.Help.usage ++ ["citecraft: error: ".toList ++ e.message])
  | .finished _ lines => write out lines
  | .crashed e => write err [e.message]
  | .unloaded _ | .failed _ => pure ()
  | .screen seed settings _ => return ← openScreen m seed settings
  return r.status.toUInt32

end CitationStudio.Terminal

open CitationStudio in
def main (args : List String) : IO UInt32 := do
  let words := args.map String.toList
  let home := Terminal.folderNamed (← IO.getEnv "HOME")
  let folder := Path.ofText (← IO.currentDir).toString.toList
  let options := (CommandLine.Options.ofWords words).toOption
  let disk ← Terminal.lookAll (Settings.places home folder (options.bind (·.config.join)))
  let input ← if options.any (·.fromInput) then Terminal.readInput else pure []
  let fresh ← IO.monoNanosNow
  let m : CommandLine.Machine :=
    { stack := .usual
      modules := Render.Catalogue.modules
      draw := fun seed => Lab.sample (seed.getD fresh) }
  Terminal.finish m (CommandLine.run m disk home folder input words)
