/-
Module: Abacus.Directory
Purpose: Reading source files. A directory is given by the files below it with
  their bytes; a path is followed component by component, and what is read must
  be UTF-8.
Main exports: ReadFault, ReadFault.message, Directory, Directory.read
-/

namespace Abacus

/-- Why a file cannot be read. -/
inductive ReadFault where
  | noSuchFile
  | notDirectory
  | isDirectory
  | notText
deriving DecidableEq, Repr, Inhabited

/-- The wording of a fault of reading. -/
def ReadFault.message : ReadFault → String
  | .noSuchFile => "No such file or directory (os error 2)"
  | .notDirectory => "Not a directory (os error 20)"
  | .isDirectory => "Is a directory (os error 21)"
  | .notText => "stream did not contain valid UTF-8"

/-- The text that bytes encode, if they are UTF-8. -/
def decodeText (bytes : ByteArray) : Except ReadFault String :=
  match String.fromUTF8? bytes with
  | some text => .ok text
  | none => .error .notText

/-- The files below a directory: where each of them stands, and its bytes. -/
structure Directory where
  files : List (List String × ByteArray) := []
deriving Inhabited

namespace Directory

/-- The components of a path. Slashes in a row count as one. -/
def components (path : String) : List String :=
  ((path.toList.splitOn '/').map String.ofList).filter (· != "")

/-- The directory of files that are named by paths. -/
def ofFiles (files : List (String × ByteArray)) : Directory where
  files := files.map fun (path, bytes) => (components path, bytes)

/-- The bytes of the file at a place. -/
def file? (directory : Directory) (place : List String) : Option ByteArray :=
  (directory.files.find? (·.1 == place)).map Prod.snd

/-- Whether a place is a directory: the directory itself, or one that a file
    stands below. -/
def isDirectory (directory : Directory) (place : List String) : Bool :=
  place.isEmpty || directory.files.any fun (other, _) =>
    place.isPrefixOf other && place != other

/-- Follows the components of a path from a place that is a directory. Two
    points lead to the directory around it. Nothing is known of what stands
    around the whole directory, so a path that leads out of it finds directories
    only as long as it names none. -/
def follow (directory : Directory) (place : List String) :
    List String → Except ReadFault (List String)
  | [] => .ok place
  | component :: components =>
      if component = "." then directory.follow place components
      else if component = ".." then
        if place.isEmpty && components.any
          (fun other => other != "." && other != "..") then
          .error .noSuchFile
        else directory.follow place.dropLast components
      else
        let next := place ++ [component]
        if directory.isDirectory next then directory.follow next components
        else if (directory.file? next).isSome then
          if components.isEmpty then .ok next else .error .notDirectory
        else
          .error .noSuchFile

/-- The text of the file that a path leads to. Nothing is known above the
    directory itself, and a path that ends in a slash leads to a directory only. -/
def read (directory : Directory) (path : String) : Except ReadFault String := do
  if path.toList.head? = some '/' then
    if (components path).isEmpty then .error .isDirectory else .error .noSuchFile
  else
    let place ← directory.follow [] (components path)
    match directory.file? place with
    | some bytes =>
        if path.toList.getLast? = some '/' then .error .notDirectory
        else decodeText bytes
    | none => .error .isDirectory

end Directory

end Abacus
