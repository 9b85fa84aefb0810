import Scaffold.Identifier
import Scaffold.Document.Shape
import Scaffold.Text.Blank

/-!
# Reactors

The steps an input goes through before it is stored, such as `validate.email(email)`: what is done,
by which named rule, and to which column.  A pipeline is written with semicolons or line feeds
between its steps; steps that are blank do not count.
-/

namespace Scaffold

/-- What a step does to the input. -/
inductive ReactorKind where
  | validate
  | transform
  | inject
deriving DecidableEq, Repr

namespace ReactorKind

def name : ReactorKind → String
  | .validate => "validate"
  | .transform => "transform"
  | .inject => "inject"

def ofName? (name : String) : Option ReactorKind :=
  [("validate", ReactorKind.validate), ("transform", .transform), ("inject", .inject)].lookup name

end ReactorKind

/-- One step of a pipeline. -/
structure Reactor where
  kind : ReactorKind
  name : String
  column : Option String
deriving DecidableEq, Repr

namespace Reactor

/-- Why a text is no step. -/
inductive Fault where
  | unclosed (step : String)
  | badColumn (step : String)
  | noKind (step : String)
  | unknownKind (kind : String)
  | badName (step : String)
deriving DecidableEq, Repr

def Fault.message : Fault → String
  | .unclosed step => "reactor '" ++ step ++ "' is missing ')'"
  | .badColumn step => "reactor '" ++ step ++ "' has an invalid column argument"
  | .noKind step => "reactor '" ++ step ++ "' must look like <kind>.<name>"
  | .unknownKind kind => "unknown reactor kind '" ++ kind ++ "'"
  | .badName step => "reactor '" ++ step ++ "' has an invalid name"

/-- The column between the first parenthesis and the one that ends the step. -/
def columnOf (step : String) (argument : List Char) : Except Fault String :=
  match Text.dropEnd? [')'] argument with
  | none => .error (.unclosed step)
  | some inner =>
      let column := Text.trim (String.ofList inner)
      if isIdentifier column then .ok column else .error (.badColumn step)

/-- The part of a step before its argument, and the column of the argument. -/
def headOf (step : String) : Except Fault (List Char × Option String) :=
  match Text.cut '(' step.toList with
  | some (head, argument) => (columnOf step argument).map fun column => (head, some column)
  | none => .ok (step.toList, none)

/-- The step with a given head, its kind and its name with a point between them. -/
def ofHead (step : String) (head : List Char) (column : Option String) : Except Fault Reactor :=
  match Text.cut '.' head with
  | none => .error (.noKind step)
  | some (kind, name) =>
      let kindName := Text.trim (String.ofList kind)
      match ReactorKind.ofName? kindName with
      | none => .error (.unknownKind kindName)
      | some kind =>
          let name := Text.trim (String.ofList name)
          if isIdentifier name then .ok { kind, name, column } else .error (.badName step)

/-- A step, with white space around it or not. -/
def parse (source : String) : Except Fault Reactor := do
  let step := Text.trim source
  let (head, column) ← headOf step
  ofHead step head column

/-- The written form of a step. -/
def render (reactor : Reactor) : String :=
  reactor.kind.name ++ "." ++ reactor.name ++
    match reactor.column with
    | some column => "(" ++ column ++ ")"
    | none => ""

/-- The steps of a pipeline that are not blank. -/
def steps (source : String) : List String :=
  ((Text.fields (fun c => c = ';' || c = '\n') source.toList).map fun step =>
    Text.trim (String.ofList step)).filter fun step => step ≠ ""

/-- A pipeline; the problem is that of the first step that has one. -/
def parsePipeline (source : String) : Except Fault (List Reactor) :=
  (steps source).mapM parse

def read (document : Document) : Except Document.Flaw Reactor := do
  let source ← document.asText
  match parse source with
  | .ok reactor => .ok reactor
  | .error fault => .error (.rejected fault.message)

def write (reactor : Reactor) : Document :=
  .text reactor.render

end Reactor

end Scaffold
