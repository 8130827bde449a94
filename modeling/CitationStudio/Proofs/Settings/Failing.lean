import CitationStudio.Proofs.Settings.Loading

/-! # What loading stops at

Each file has a trouble of its own, or none, and loading stops at the first trouble in the order of
the files. Who loads expects a file to be unreadable or malformed; but not an infinite number where
a whole one is due, nor those failures of a YAML text that are not told apart as bad values, nor
that the stack does not suffice. -/

namespace CitationStudio.Settings

variable {stack : Stack}

/-! ## Files -/

namespace Loading

variable {l : Loading} (hl : l.failure = none)
include hl

end Loading

/-- A file that need not hold settings upsets loading if more lists and maps are opened in it than
may be open, or if loading does not get past what it gives. -/
inductive Upsets (stack : Stack) (c : Content) : Prop
  | deep {t : Text} {inMap : Bool} :
      c.text = .ok t → Json.parse stack.json t = .error (.tooDeep inMap) → Upsets stack c
  | blocked : (contributed stack c).all (passes stack) = false → Upsets stack c

/-- What upsets loading in the text of a file that is asked for: something else than a number that
cannot be written is in the way of what it gives; the stack does not suffice to read it; or it has a
failure of YAML that is not told to be a bad value. -/
inductive Upsetting (stack : Stack) (p : Path) (t : Text) : Prop
  | blocked {layer : Layer} {o : Obstacle} : readLayer stack p t = .ok layer →
      obstacle? stack layer = some o → o ≠ .unwritable → Upsetting stack p t
  | deep {inMap : Bool} : isYaml p = false → Json.parse stack.json t = .error (.tooDeep inMap) →
      Upsetting stack p t
  | exhausted : isYaml p = true → stack.yaml t = false → Upsetting stack p t
  | yaml {f : Yaml.Failure} : isYaml p = true → stack.yaml t = true → Yaml.parse t = .error f →
      f.kind ≠ .badValue → Upsetting stack p t

/-- Loading is upset by a layered file, or by the one that is asked for. -/
inductive Upset (stack : Stack) (disk : Disk) (home folder : Path) (asked : Option Path) : Prop
  | layered {before after : List Path} {p : Path} :
      layered disk home folder = before ++ p :: after → (∀ q ∈ before, Tolerable stack (disk q)) →
      Upsets stack (disk p) → Upset stack disk home folder asked
  | asked {p : Path} {t : Text} :
      (∀ q ∈ Settings.layered disk home folder, Tolerable stack (disk q)) → asked = some p →
      (disk p).text = .ok t → Upsetting stack p t → Upset stack disk home folder asked

end CitationStudio.Settings
