/-
This file defines how files are read and written, and folders of text files.
-/

import Tabletop.Table
import Tabletop.Text.Cut

namespace Tabletop

open Text

/-- Why a file cannot be read or written. -/
inductive FileFault where
  | missing
  | isFolder
  /-- A part of the path is a file. -/
  | notFolder
  | longName
  | denied
  | notText
  | other (text : String)
deriving DecidableEq, Repr

def FileFault.message : FileFault → String
  | .missing => "No such file or directory (os error 2)"
  | .isFolder => "Is a directory (os error 21)"
  | .notFolder => "Not a directory (os error 20)"
  | .longName => "File name too long (os error 36)"
  | .denied => "Permission denied (os error 13)"
  | .notText => "stream did not contain valid UTF-8"
  | .other text => text

/-- The files that a program reads and writes. -/
structure Files (m : Type → Type) where
  read : (path : String) → m (Except FileFault String)
  /-- There is a file or a folder. -/
  holds : (path : String) → m Bool
  write : (path text : String) → m (Except FileFault Unit)

/-- Text files by their names. A name with slashes stands for a file in other folders. -/
structure Folder where
  files : Table String

namespace Folder

/-- What a path leads to. -/
inductive Place where
  | file (name text : String)
  | folder
  /-- Nothing yet, but its folder is there. -/
  | free (name : String)
  | fault (fault : FileFault)
deriving DecidableEq, Repr

/-- The longest name of one file, in bytes. -/
def maxNameLength : Nat := 255

/-- The name of a file from the names of its folders, the innermost first. -/
def nameOf (inner : List (List Char)) : String :=
  String.ofList (join ['/'] inner.reverse)

/-- Some file lies in the folder. -/
def holdsFolder (folder : Folder) (name : String) : Bool :=
  folder.files.toList.any fun (file, _) => (after? (name ++ "/").toList file.toList).isSome

/-- What the rest of a path leads to from a folder. -/
def placeFrom (folder : Folder) (inner : List (List Char)) : List (List Char) → Place
  | [] => .folder
  | part :: others =>
    if part = [] || part = ['.'] then placeFrom folder inner others
    else if part = ['.', '.'] then
      match inner with
      | [] => .fault .missing
      | _ :: outer => placeFrom folder outer others
    else if maxNameLength < byteLength part then .fault .longName
    else
      let name := nameOf (part :: inner)
      if folder.holdsFolder name then placeFrom folder (part :: inner) others
      else
        match folder.files[name]?, others with
        | some text, [] => .file name text
        | some _, _ :: _ => .fault .notFolder
        | none, [] => .free name
        | none, _ :: _ => .fault .missing

/-- What a path leads to. Nothing outside the folder can be reached. -/
def place (folder : Folder) (path : String) : Place :=
  match path.toList with
  | [] => .fault .missing
  | '/' :: _ => .fault .missing
  | path => placeFrom folder [] (splitBy (· == '/') path)

def read (folder : Folder) (path : String) : Except FileFault String :=
  match folder.place path with
  | .file _ text => .ok text
  | .folder => .error .isFolder
  | .free _ => .error .missing
  | .fault fault => .error fault

def holds (folder : Folder) (path : String) : Bool :=
  match folder.place path with
  | .file _ _ => true
  | .folder => true
  | .free _ => false
  | .fault _ => false

def write (folder : Folder) (path text : String) : Except FileFault Folder :=
  match folder.place path with
  | .file name _ => .ok ⟨folder.files.insert name text⟩
  | .free name => .ok ⟨folder.files.insert name text⟩
  | .folder => .error .isFolder
  | .fault fault => .error fault

end Folder

/-- The files of a folder that is passed along. -/
def Files.ofFolder : Files (StateM Folder) where
  read path := return (← get).read path
  holds path := return (← get).holds path
  write path text := do
    match (← get).write path text with
    | .ok folder =>
      set folder
      return .ok ()
    | .error fault => return .error fault

end Tabletop
