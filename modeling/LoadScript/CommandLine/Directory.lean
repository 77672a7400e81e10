import LoadScript.Entries
import LoadScript.Text.Split

/-!
The working directory: files and folders, and the paths that name them.
-/

namespace LoadScript.CommandLine

structure Directory where
  files : Entries String := []
  folders : List String := []
deriving DecidableEq, Repr

structure FilePath where
  absolute : Bool
  parts : List String
deriving DecidableEq, Repr

namespace FilePath

def isPathText (text : String) : Bool := !text.toList.contains (Char.ofNat 0)

def ofText (text : String) : FilePath :=
  let parts := (Text.splitAt '/' text.toList).map String.ofList
  { absolute := text.toList.head? = some '/'
    parts := parts.filter fun part => part != "" && part != "." }

def text (path : FilePath) : String :=
  if path.absolute then "/" ++ String.intercalate "/" path.parts
  else if path.parts.isEmpty then "."
  else String.intercalate "/" path.parts

def fileName (path : FilePath) : String := path.parts.getLast?.getD ""

def child (path : FilePath) (part : String) : FilePath :=
  { path with parts := path.parts ++ [part] }

def start (path : FilePath) : FilePath := { path with parts := [] }

def parent (path : FilePath) : FilePath :=
  if path.parts.any (· != "..") then { path with parts := path.parts.dropLast }
  else if path.absolute then path
  else path.child ".."

def enter (path : FilePath) (part : String) : FilePath :=
  if part = ".." then path.parent else path.child part

def resolve (path : FilePath) : FilePath := path.parts.foldl enter path.start

def steps (path : FilePath) : List FilePath :=
  (List.range path.parts.length).map fun index =>
    { path with parts := path.parts.take (index + 1) }

end FilePath

inductive FileError where
  | notFound
  | isFolder
  | notFolder
  | nameTooLong
deriving DecidableEq, Repr

def FileError.message : FileError → String
  | .notFound => "No such file or directory"
  | .isFolder => "Is a directory"
  | .notFolder => "Not a directory"
  | .nameTooLong => "File name too long"

inductive Target where
  | file (text : String)
  | folder
  | nothing
  | unreachable (error : FileError)
deriving DecidableEq, Repr

namespace Directory

def hasFolder (directory : Directory) (path : FilePath) : Bool :=
  path.parts.all (· = "..") || directory.folders.contains path.text ||
    directory.files.any fun (name, _) => Text.startsWith name (path.text ++ "/")

def targetAt (directory : Directory) (path : FilePath) : Target :=
  match directory.files.find? path.text with
  | some text => .file text
  | none => if directory.hasFolder path then .folder else .nothing

def nameLimit : Nat := 255

def pathLimit : Nat := 4095

def follow (directory : Directory) (folder : FilePath) : List String → Target
  | [] => .folder
  | part :: rest =>
      if nameLimit < part.utf8ByteSize then .unreachable .nameTooLong
      else
        match rest, directory.targetAt (folder.enter part) with
        | [], target => target
        | _, .folder => follow directory (folder.enter part) rest
        | _, .file _ => .unreachable .notFolder
        | _, _ => .unreachable .notFound

def target (directory : Directory) (path : FilePath) : Target :=
  if pathLimit < path.text.utf8ByteSize then .unreachable .nameTooLong
  else directory.follow path.start path.parts

def hasFile (directory : Directory) (text : String) : Bool :=
  match directory.target (.ofText text) with
  | .file _ => true
  | .folder | .nothing | .unreachable _ => false

def read (directory : Directory) (path : FilePath) : Except FileError String :=
  match directory.target path with
  | .file contents => .ok contents
  | .folder => .error .isFolder
  | .nothing => .error .notFound
  | .unreachable error => .error error

def write (directory : Directory) (path : FilePath) (contents : String) :
    Except FileError Directory :=
  match directory.target path with
  | .file _ | .nothing =>
      .ok { directory with files := directory.files.put path.resolve.text contents }
  | .folder => .error .isFolder
  | .unreachable error => .error error

def changes (before after : Directory) : Entries String :=
  after.files.filter fun (name, contents) => before.files.find? name != some contents

end Directory

end LoadScript.CommandLine
