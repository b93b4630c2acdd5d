/-!
Directories: files by relative paths. The steps of a path are separated by slashes. Empty steps
and single dots lead nowhere else, and double dots lead to the directory around.
-/

namespace MutationTesting.CommandLine

/-- The device that holds nothing and forgets what is written to it. -/
def nullDevice : String := "/dev/null"

def maxNameBytes : Nat := 255

def maxPathBytes : Nat := 4095

/-- A path as its steps. -/
structure Path where
  steps : List String
  /-- The path can only be that of a directory. -/
  isDirectory : Bool
deriving DecidableEq, Inhabited

/-- A relative path; none for an absolute one, and where the path or a name in it is too long. -/
def Path.ofText? (text : String) : Option Path :=
  let parts := text.splitOn "/"
  if text.startsWith "/" || text.utf8ByteSize > maxPathBytes
      || parts.any (·.utf8ByteSize > maxNameBytes) then
    none
  else
    let steps := parts.filter fun part => part ≠ "" && part ≠ "."
    some { steps, isDirectory := ["", ".", ".."].contains (parts.getLastD "") }

/-- What is found at the path of a file that is to be read. -/
inductive Found where
  | nothing
  /-- Something that cannot be read like a file. -/
  | noFile
  | file (bytes : List UInt8)
deriving DecidableEq, Inhabited

def Found.bytes? : Found → Option (List UInt8)
  | .file bytes => some bytes
  | _ => none

/-- The files of a directory and of those in it. Only those of its files that lie outside have
double dots in their steps, in front of the others.
-/
structure Directory where
  files : List (List String × List UInt8) := []
deriving Inhabited

namespace Directory

/-- Tells whether steps lead to a directory: to this one, to one around it or to one that holds
something.
-/
def hasDirectory (directory : Directory) (steps : List String) : Bool :=
  steps.all (· = "..")
    || directory.files.any fun file => steps.isPrefixOf file.1 && steps.length < file.1.length

/-- Takes one more step. One can only step up from a directory that is there. -/
def step? (directory : Directory) (steps : List String) (name : String) : Option (List String) :=
  if name ≠ ".." then some (steps ++ [name])
  else if !directory.hasDirectory steps then none
  else if steps.all (· = "..") then some (steps ++ [name])
  else some steps.dropLast

/-- Where a path leads, with no more steps up than those that leave the directory. -/
def locate? (directory : Directory) (text : String) : Option Path := do
  let path ← Path.ofText? text
  pure { path with steps := ← path.steps.foldlM directory.step? [] }

def find (directory : Directory) (text : String) : Found :=
  if text = nullDevice then
    .file []
  else
    match directory.locate? text with
    | none => .nothing
    | some path =>
        if directory.hasDirectory path.steps then .noFile
        else if path.isDirectory then .nothing
        else (directory.files.lookup path.steps).elim .nothing .file

def read? (directory : Directory) (text : String) : Option (List UInt8) :=
  (directory.find text).bytes?

/-- The directory with a file written; none where no file can be. -/
def write? (directory : Directory) (text : String) (bytes : List UInt8) : Option Directory := do
  if text = nullDevice then
    some directory
  else
    let path ← directory.locate? text
    if path.isDirectory || directory.hasDirectory path.steps
        || !directory.hasDirectory path.steps.dropLast then
      none
    else
      some { files := directory.files.filter (·.1 != path.steps) ++ [(path.steps, bytes)] }

end Directory

end MutationTesting.CommandLine
