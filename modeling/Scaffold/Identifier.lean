import Scaffold.Text.Fields

/-!
# Names that generated code can hold

Three grammars, all of them ASCII: names of database objects, of modules, and of module URLs.  A
name of a database object may be qualified, with a point between its parts.
-/

namespace Scaffold

/-- A letter or underscore. -/
def isNameStart (c : Char) : Bool :=
  c.isAlpha || c = '_'

def isNamePart (c : Char) : Bool :=
  c.isAlpha || c.isDigit || c = '_'

/-- One part of an identifier: a letter or underscore, then letters, digits and underscores. -/
def isSimpleName : List Char → Bool
  | [] => false
  | c :: cs => isNameStart c && cs.all isNamePart

/-- Simple names with a point between neighbours. -/
def isIdentifier (name : String) : Bool :=
  (Text.fields (· = '.') name.toList).all isSimpleName

/-- Letters, digits, underscores and hyphens, at least one. -/
def isModuleName (name : String) : Bool :=
  !name.toList.isEmpty && name.toList.all fun c => isNamePart c || c = '-'

/-- A segment of a module URL: lower-case letters, digits, underscores and hyphens. -/
def isUrlSegment (segment : List Char) : Bool :=
  !segment.isEmpty && segment.all fun c => c.isLower || c.isDigit || c = '_' || c = '-'

/-- Segments with a slash between neighbours. -/
def isModuleUrl (url : String) : Bool :=
  (Text.fields (· = '/') url.toList).all isUrlSegment

end Scaffold
