import Scaffold.Text.Blank
import Scaffold.Text.Words

/-!
# Names of generated things

How class names, file names and labels come from the names of tables and columns, and the filters
by which templates ask for them.
-/

namespace Scaffold

/-- The singular form of a name: `ies` becomes `y`, and a final `s` that does not follow another
one is dropped. -/
def singularChars (cs : List Char) : List Char :=
  match Text.dropEnd? ['i', 'e', 's'] cs with
  | some stem => stem ++ ['y']
  | none => match Text.dropEnd? ['s'] cs with
      | some stem => if stem.getLast? = some 's' then cs else stem
      | none => cs

def singular (name : String) : String :=
  String.ofList (singularChars name.toList)

/-- What follows the last point of a name. -/
def unqualified (cs : List Char) : List Char :=
  (Text.fields (· = '.') cs).getLast?.getD cs

/-- Whether class names take the singular form of the table's name. -/
structure Naming where
  singularClasses : Bool := true
deriving DecidableEq, Repr

/-- The conversions a template may apply to a value. -/
inductive Filter where
  | pascal
  | camel
  | kebab
  | snake
  | upper
  | lower
  | singular
  | className
  | label
deriving DecidableEq, Repr

namespace Filter

/-- The filters and their names in templates. -/
def named : List (String × Filter) :=
  [("pascal", .pascal), ("camel", .camel), ("kebab", .kebab), ("snake", .snake),
    ("upper", .upper), ("lower", .lower), ("singular", .singular), ("class", .className),
    ("label", .label)]

def ofName? (name : String) : Option Filter :=
  named.lookup name

end Filter

namespace Naming

/-- The class of a table, without the table's qualifier. -/
def className (naming : Naming) (table : String) : String :=
  let base := unqualified table.toList
  String.ofList (Text.pascalCase (if naming.singularClasses then singularChars base else base))

/-- The beginning of the names of a table's files. -/
def fileStem (table : String) : String :=
  String.ofList (Text.kebabCase (table.toList.map fun c => if c = '.' then '_' else c))

/-- A column's name for people, as `Customer Id` for `customer_id`. -/
def label (name : String) : String :=
  String.ofList (Text.titleCase (unqualified name.toList))

def apply (naming : Naming) (value : String) : Filter → String
  | .pascal => String.ofList (Text.pascalCase value.toList)
  | .camel => String.ofList (Text.camelCase value.toList)
  | .kebab => String.ofList (Text.kebabCase value.toList)
  | .snake => String.ofList (Text.snakeCase value.toList)
  | .upper => Text.toUpper value
  | .lower => Text.toLower value
  | .singular => Scaffold.singular value
  | .className => naming.className value
  | .label => label value

/-- Filters by name, from left to right; the error is the first name that is no filter. -/
def applyNamed (naming : Naming) (value : String) : List String → Except String String
  | [] => .ok value
  | name :: names =>
      match Filter.ofName? name with
      | some filter => applyNamed naming (naming.apply value filter) names
      | none => .error name

end Naming

end Scaffold
