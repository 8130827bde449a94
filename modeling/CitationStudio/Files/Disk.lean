import CitationStudio.Files.Path
import CitationStudio.Text.Quoted
import CitationStudio.Text.Utf8

/-! What a program can see of the files: for each path, what it leads to. A folder is there as
soon as something is in it. -/

namespace CitationStudio

/-- What a path leads to. -/
inductive Content where
  | file (octets : List UInt8)
  | folder
  | missing
  /-- A step of the path leads on from a file. -/
  | blocked
  /-- The path is none: there is a null character in it. -/
  | unnamed
  /-- A step of the path is longer than any name. -/
  | overlong
  deriving Repr, DecidableEq, Inhabited

abbrev Disk := Path → Content

inductive ReadError where
  | notFound
  | isFolder
  | notFolder
  | undecodable
  | noName
  | longName
  deriving Repr, DecidableEq, Inhabited

def ReadError.message (p : Path) : ReadError → Text
  | notFound => "no such file".toList
  | isFolder => "it is a folder".toList
  | notFolder => "a step of its path is no folder".toList
  | undecodable => "it is not in UTF-8".toList
  | noName => "embedded null byte".toList
  | longName => "[Errno 36] File name too long: ".toList ++ p.text.quoted

def Content.isFile : Content → Bool
  | file _ => true
  | _ => false

/-- The text of a file, its line breaks made alike. -/
def Content.text : Content → Except ReadError Text
  | file octets =>
    match Text.ofOctets? octets with
    | some t => .ok t.unifyBreaks
    | none => .error .undecodable
  | folder => .error .isFolder
  | missing => .error .notFound
  | blocked => .error .notFolder
  | unnamed => .error .noName
  | overlong => .error .longName

/-- Files by place, and folders that are there without a file. -/
structure FileTree where
  files : List (List Text × List UInt8)
  folders : List (List Text)
  deriving Repr, DecidableEq, Inhabited

namespace FileTree

def hasFolder (t : FileTree) (place : List Text) : Bool :=
  place.isEmpty || t.folders.any place.isPrefixOf ||
    t.files.any fun f => place.isPrefixOf f.1 && f.1 != place

/-- What is at a place. -/
def contentAt (t : FileTree) (place : List Text) : Content :=
  match t.files.lookup place with
  | some octets => .file octets
  | none => if t.hasFolder place then .folder else .missing

/-- How many octets a name may have. -/
def nameLimit : Nat := 255

/-- Goes on from a place, step by step. -/
def walk (t : FileTree) (place : List Text) : List Text → Content
  | [] => t.contentAt place
  | s :: steps =>
    match t.contentAt place with
    | .folder =>
      if nameLimit < (String.ofList s).utf8ByteSize then .overlong
      else t.walk (if s = ['.', '.'] then place.dropLast else place ++ [s]) steps
    | .file _ => .blocked
    | c => c

/-- The tree as seen by a program that runs in a folder of it. Under another root is nothing. -/
def disk (t : FileTree) (folder : Path) : Disk := fun p =>
  let p := p.under folder
  if p.text.contains '\x00' then .unnamed
  else if p.anchor = folder.anchor then t.walk [] p.steps
  else .missing

end FileTree

end CitationStudio
