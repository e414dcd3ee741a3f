import ScriptLayout.Files.Error

/-!
# Directories

A directory held in memory: files with their names and contents, where a slash
in a name separates a directory from what it holds. Names and paths are followed
step by step (`step`): a single dot stays where it is, and two dots go back. On a
path, which is followed as an operating system does (`walk`), every step must be
taken from a directory, and a path that ends in a slash names a directory. The
directories above are there, but nothing else is known of them, so that there is
nothing to be found in them.
-/

namespace ScriptLayout

/-- The parts of a path between its slashes. -/
def splitPath (path : String) : List String :=
  (go path.toList).map String.ofList
where
  /-- The same on lists of characters. -/
  go : List Char → List (List Char)
    | [] => [[]]
    | c :: rest =>
      if c = '/' then [] :: go rest
      else
        match go rest with
        | [] => [[c]]
        | part :: parts => (c :: part) :: parts

/-- Whether a part of a path stays in the directory that it is taken from. -/
def isStay (part : String) : Bool :=
  part == "" || part == "."

/-- The directory above the one at the end of these steps: further up than the
    first step, two dots are a step of their own, and above the slash at the top
    of everything there is nothing. -/
def parent (steps : List String) : List String :=
  match steps.getLast? with
  | none => [".."]
  | some ".." => steps ++ [".."]
  | some "/" => steps
  | some _ => steps.dropLast

/-- The steps that lead from the directory at the end of these steps to a part of
    a path. -/
def step (steps : List String) (part : String) : List String :=
  if isStay part then steps else if part = ".." then parent steps else steps ++ [part]

/-- The steps to where a path starts: the directory itself, or the top of everything. -/
def origin (path : String) : List String :=
  if path.toList.head? = some '/' then ["/"] else []

/-- Whether these steps lead to the directory itself or one above it. -/
def isAbove (steps : List String) : Bool :=
  steps.all fun part => part == ".." || part == "/"

/-- A file of a directory. -/
structure File where
  /-- The name, relative to the directory. -/
  name : String
  /-- The contents. -/
  content : ByteArray

namespace File

/-- The steps to the file. -/
def steps (f : File) : List String :=
  (splitPath f.name).foldl step (origin f.name)

/-- The steps to all directories on the way to the file. -/
def folders (f : File) : List (List String) :=
  go (origin f.name) (splitPath f.name)
where
  /-- The same, from a directory and with parts of the name ahead. -/
  go (steps : List String) : List String → List (List String)
    | [] | [_] => [steps]
    | part :: parts => steps :: go (step steps part) parts

end File

/-- Files in a common directory. -/
structure Directory where
  /-- The files, each under every name that it was given. -/
  files : List File

namespace Directory

/-- What a path may lead to. -/
inductive Place where
  /-- A directory. -/
  | folder (steps : List String)
  /-- A file. -/
  | file (steps : List String)
  deriving DecidableEq, Repr

/-- Whether there is a file at the end of these steps. -/
def hasFile (d : Directory) (steps : List String) : Bool :=
  d.files.any fun f => f.steps == steps

/-- Whether there is a directory at the end of these steps. -/
def hasFolder (d : Directory) (steps : List String) : Bool :=
  isAbove steps || d.files.any fun f => f.folders.contains steps

/-- Where a path leads from a place. -/
def walk (d : Directory) : Place → List String → Except FileError Place
  | place, [] => .ok place
  | .file _, _ :: _ => .error .notDirectory
  | .folder steps, part :: parts =>
    let steps := step steps part
    if d.hasFolder steps then walk d (.folder steps) parts
    else if d.hasFile steps then walk d (.file steps) parts
    else .error .notFound

/-- Where a path leads from the directory. The empty path leads nowhere. -/
def resolve (d : Directory) (path : String) : Except FileError Place :=
  if path = "" then .error .notFound else d.walk (.folder (origin path)) (splitPath path)

/-- The steps to the file that a path leads to. -/
def find (d : Directory) (path : String) : Except FileError (List String) := do
  match ← d.resolve path with
  | .file steps => return steps
  | .folder _ => throw .isDirectory

/-- The contents of the file that a path leads to. -/
def readBytes (d : Directory) (path : String) : Except FileError ByteArray := do
  let steps ← d.find path
  match d.files.find? fun f => f.steps == steps with
  | some f => return f.content
  | none => throw .notFound

/-- The text in the file that a path leads to. -/
def readText (d : Directory) (path : String) : Except FileError String := do
  decodeText (← d.readBytes path)

/-- The directory with other contents of the file at the end of these steps. -/
def replace (d : Directory) (steps : List String) (content : ByteArray) : Directory :=
  ⟨d.files.map fun f => if f.steps == steps then { f with content } else f⟩

/-- The directory with a file created under the given name. If it is there under
    another name already, its contents change. -/
def create (d : Directory) (name : String) (content : ByteArray) : Directory :=
  let f : File := ⟨name, content⟩
  ⟨(d.replace f.steps content).files ++ [f]⟩

/-- The directory with a text in the file that a path leads to. -/
def writeText (d : Directory) (path text : String) : Except FileError Directory := do
  return d.replace (← d.find path) text.toUTF8

end Directory

end ScriptLayout
