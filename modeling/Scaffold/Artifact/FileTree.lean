import Scaffold.Artifact.RelativePath
import Scaffold.Artifact.Store
import Scaffold.Entries

/-!
# Folders and files

A tree of folders and regular files.  An operation fails only where the tree contradicts it or a
name is not one that a file can have; folders made on the way to a failure stay.  How long a name
may be is left open, and a tree without a limit fails only where it contradicts the operation, save
that no name holds a NUL.
-/

namespace Scaffold

inductive FileTree where
  | file (text : String)
  | folder (entries : List (String × FileTree))
deriving Inhabited

/-- Why an operation on files fails. -/
inductive DiskFault where
  | missing
  | exists
  | notFolder
  | isFolder
  | nameTooLong
  | nul
deriving DecidableEq, Repr

def DiskFault.message : DiskFault → String
  | .missing => "No such file or directory (os error 2)"
  | .exists => "File exists (os error 17)"
  | .notFolder => "Not a directory (os error 20)"
  | .isFolder => "Is a directory (os error 21)"
  | .nameTooLong => "File name too long (os error 36)"
  | .nul => "file name contained an unexpected NUL byte"

namespace FileTree

def empty : FileTree := .folder []

def isFolder : FileTree → Bool
  | .folder _ => true
  | .file _ => false

/-- What lies under a list of names. -/
def find? (tree : FileTree) : List String → Option FileTree
  | [] => some tree
  | name :: names =>
      match tree with
      | .folder entries =>
          match entries.lookup name with
          | some child => child.find? names
          | none => none
      | .file _ => none

/-- The text of a file. -/
def text? (tree : FileTree) (names : List String) : Option String :=
  match tree.find? names with
  | some (.file text) => some text
  | _ => none

/-- Whether something lies at a path; a path that ends like a folder's needs a folder. -/
def isTaken (tree : FileTree) (path : RelativePath) : Bool :=
  match tree.find? path.names with
  | some found => path.ending = .name || found.isFolder
  | none => false

/-- The longest name on a disk, in bytes. -/
def longestName : Nat := 255

/-- Whether a name is too long, where there is a longest one. -/
def isTooLong (longest : Option Nat) (name : String) : Bool :=
  longest.any fun most => most < name.utf8ByteSize

def hasNul (name : String) : Bool :=
  name.toList.contains (Char.ofNat 0)

/-- Makes the folders along a list of names, from the top; those that exist are kept. -/
def makeFolders (longest : Option Nat) (tree : FileTree) :
    List String → Except DiskFault Unit × FileTree
  | [] => if tree.isFolder then (.ok (), tree) else (.error .exists, tree)
  | name :: names =>
      match tree with
      | .file _ => (.error .notFolder, tree)
      | .folder entries =>
          if isTooLong longest name then (.error .nameTooLong, tree)
          else
            let (outcome, child) :=
              makeFolders longest ((entries.lookup name).getD empty) names
            (outcome, .folder (Entries.put name child entries))

/-- What opening a file for writing finds in its folder. -/
def openFault? (longest : Option Nat) (overwrite : Bool) (ending : PathEnd) (name : String)
    (found : Option FileTree) : Option DiskFault :=
  if hasNul name then some .nul
  else match ending with
    | .slash => some .isFolder
    | .name =>
        if isTooLong longest name then some .nameTooLong
        else match found with
          | none => none
          | some (.file _) => if overwrite then none else some .exists
          | some (.folder _) => some (if overwrite then .isFolder else .exists)
    | .point =>
        if isTooLong longest name then some .nameTooLong
        else match found with
          | none => some .missing
          | some (.file _) => some .notFolder
          | some (.folder _) => some (if overwrite then .isFolder else .exists)

/-- Writes a file whose folder exists. -/
def writeFile (longest : Option Nat) (overwrite : Bool) (ending : PathEnd) (text : String)
    (tree : FileTree) : List String → Except DiskFault Unit × FileTree
  | [] => (.error .isFolder, tree)
  | name :: names =>
      match tree with
      | .file _ => (.error .notFolder, tree)
      | .folder entries =>
          match names with
          | [] =>
              match openFault? longest overwrite ending name (entries.lookup name) with
              | some fault => (.error fault, tree)
              | none => (.ok (), .folder (Entries.put name (.file text) entries))
          | _ :: _ =>
              match entries.lookup name with
              | none => (.error .missing, tree)
              | some child =>
                  let (outcome, child) := writeFile longest overwrite ending text child names
                  (outcome, .folder (Entries.put name child entries))

/-- The failure that a fault in opening a file is. -/
def failureOf (path : String) : DiskFault → Failure
  | .exists => .artifactExists path
  | fault => .output fault.message

/-- Writes an artifact below a folder of the tree, making the folders it needs. -/
def writeWithin (longest : Option Nat) (root : List String) (overwrite : Bool)
    (artifact : Artifact) (tree : FileTree) : Except Failure Unit × FileTree :=
  match RelativePath.ofText? artifact.path with
  | none => (.error (.invalid artifact.path .unsafePath), tree)
  | some path =>
      let names := root ++ path.names
      if names.dropLast.any hasNul then (.error (.output DiskFault.nul.message), tree)
      else match makeFolders longest tree names.dropLast with
        | (.error fault, tree) => (.error (.output fault.message), tree)
        | (.ok (), tree) =>
            match writeFile longest overwrite path.ending artifact.text tree names with
            | (.error fault, tree) => (.error (failureOf artifact.path fault), tree)
            | (.ok (), tree) => (.ok (), tree)

/-- Whether an artifact's path is taken below a folder of the tree. -/
def taken (root : List String) (path : String) (tree : FileTree) : Except Failure Bool :=
  match RelativePath.ofText? path with
  | none => .error (.invalid path .unsafePath)
  | some relative => .ok (tree.isTaken { relative with names := root ++ relative.names })

/-- A folder of the tree as a store, where names have at most a given length, if there is one. -/
def storeWithin (longest : Option Nat) (root : List String) : Store (StateM FileTree) where
  taken path := fun tree => (taken root path tree, tree)
  write overwrite artifact := writeWithin longest root overwrite artifact

/-- Writes an artifact below a folder of a disk. -/
def write (root : List String) (overwrite : Bool) (artifact : Artifact) (tree : FileTree) :
    Except Failure Unit × FileTree :=
  writeWithin longestName root overwrite artifact tree

/-- A folder of a disk as a store. -/
def store (root : List String) : Store (StateM FileTree) :=
  storeWithin longestName root

mutual

/-- The files of a tree with their paths, which start with `base`. -/
def files (base : List String) : FileTree → List (String × String)
  | .file text => [(Text.join "/" base, text)]
  | .folder entries => filesOf base entries

def filesOf (base : List String) : List (String × FileTree) → List (String × String)
  | [] => []
  | (name, child) :: entries => child.files (base ++ [name]) ++ filesOf base entries

end

end FileTree

end Scaffold
