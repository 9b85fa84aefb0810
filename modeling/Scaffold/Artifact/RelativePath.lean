import Scaffold.Text.Fields

/-!
# Relative paths

A path is written with slashes between its names.  Empty names and points inside it lead nowhere
and are dropped; a path that starts at the root of the file system or at a point, or that leads
upwards, is not one that artifacts may have.
-/

namespace Scaffold

/-- How a path ends, after its last name. -/
inductive PathEnd where
  | name
  /-- A slash, so that the path can only be a folder's. -/
  | slash
  /-- A point: the folder itself. -/
  | point
deriving DecidableEq, Repr

structure RelativePath where
  names : List String
  ending : PathEnd
deriving DecidableEq, Repr

namespace RelativePath

/-- The texts between the slashes of a path. -/
def segments (path : String) : List String :=
  (Text.fields (· = '/') path.toList).map String.ofList

/-- Whether a segment is the name of a file or folder. -/
def isName (segment : String) : Bool :=
  segment != "" && segment != "." && segment != ".."

/-- A step of a path. -/
inductive Step where
  /-- To the root of the file system. -/
  | root
  | here
  | up
  | name (name : String)
deriving DecidableEq, Repr

def Step.ofSegment (segment : String) : Step :=
  if segment = "." then .here else if segment = ".." then .up else .name segment

def Step.name? : Step → Option String
  | .name text => some text
  | _ => none

/-- The steps of a path.  An empty segment is none, and a point is one in front only. -/
def steps (path : String) : List Step :=
  match segments path with
  | [] => []
  | first :: rest =>
      let inner := (rest.filter fun segment => segment != "" && segment != ".").map Step.ofSegment
      if first != "" then .ofSegment first :: inner
      else if rest.isEmpty then [] else .root :: inner

/-- How the segments of a path end. -/
def endingOf (segments : List String) : PathEnd :=
  if segments.getLast? = some "" then
    if (segments.filter (· ≠ "")).getLast? = some "." then .point else .slash
  else if segments.getLast? = some "." then .point
  else .name

/-- The path of an artifact, which steps down and nowhere else. -/
def ofText? (path : String) : Option RelativePath :=
  match (steps path).mapM Step.name? with
  | none => none
  | some [] => none
  | some names => some ⟨names, endingOf (segments path)⟩

end RelativePath

end Scaffold
