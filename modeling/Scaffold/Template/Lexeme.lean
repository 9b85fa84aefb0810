import Scaffold.Template.Piece

/-!
# Lexemes

What a line of a template is made of, left to right, before its tags are given a meaning: characters,
brackets that a backslash makes text of, and brackets with all that stands before the first
terminator after them.
-/

namespace Scaffold.Template

/-- Two brackets on each side, or the three of a list. -/
inductive Brackets where
  | plain
  | list
deriving DecidableEq, Repr

namespace Brackets

def opening : Brackets → List Char
  | .plain => ['[', '[']
  | .list => ['[', '[', '[']

/-- The terminator of a tag. -/
def closing : Brackets → List Char
  | .plain => [']', ']']
  | .list => [']', ']', ']']

/-- The tag between the brackets. -/
def read : Brackets → List Char → Option Tag
  | .plain => plainTag?
  | .list => listTag?

/-- What stands before the first terminator, and what after it. -/
def cut? (brackets : Brackets) : List Char → Option (List Char × List Char)
  | [] => none
  | c :: cs =>
      if brackets.closing <+: c :: cs then some ([], (c :: cs).drop brackets.closing.length)
      else (brackets.cut? cs).map fun (inner, rest) => (c :: inner, rest)

theorem eq_of_cut?_eq_some {brackets : Brackets} {cs inner rest : List Char}
    (h : brackets.cut? cs = some (inner, rest)) : cs = inner ++ (brackets.closing ++ rest) := by
  induction cs generalizing inner with
  | nil => cases h
  | cons c cs ih =>
      rw [cut?] at h
      split at h
      · next hcloses =>
          cases h
          rw [List.nil_append]
          exact (List.prefix_iff_eq_append.1 hcloses).symm
      · obtain ⟨⟨front, back⟩, hcut, heq⟩ := Option.map_eq_some_iff.1 h
        cases heq
        rw [List.cons_append, ← ih hcut]

theorem length_lt_of_cut?_eq_some {brackets : Brackets} {cs inner rest : List Char}
    (h : brackets.cut? cs = some (inner, rest)) : rest.length < cs.length := by
  have hclosing : 0 < brackets.closing.length := by cases brackets <;> decide
  rw [eq_of_cut?_eq_some h, List.length_append, List.length_append]
  omega

end Brackets

inductive Lexeme where
  | char (c : Char)
  /-- Brackets that are text, behind a backslash. -/
  | escaped
  /-- What stands between brackets. -/
  | enclosed (brackets : Brackets) (inner : List Char)
  /-- Opening brackets, and the rest of their line, in which no terminator follows. -/
  | unterminated (brackets : Brackets) (rest : List Char)
deriving DecidableEq, Repr

/-- The lexemes of a line. -/
def lexemes : List Char → List Lexeme
  | [] => []
  | '\\' :: '[' :: '[' :: cs => .escaped :: lexemes cs
  | '[' :: '[' :: '[' :: cs =>
      match _ : Brackets.list.cut? cs with
      | some (inner, rest) => .enclosed .list inner :: lexemes rest
      | none => [.unterminated .list cs]
  | '[' :: '[' :: cs =>
      match _ : Brackets.plain.cut? cs with
      | some (inner, rest) => .enclosed .plain inner :: lexemes rest
      | none => [.unterminated .plain cs]
  | c :: cs => .char c :: lexemes cs
termination_by cs => cs.length
decreasing_by
  · simp only [List.length_cons]
    omega
  · have hrest := Brackets.length_lt_of_cut?_eq_some ‹_›
    simp only [List.length_cons]
    omega
  · have hrest := Brackets.length_lt_of_cut?_eq_some ‹_›
    simp only [List.length_cons]
    omega
  · simp only [List.length_cons]
    omega

namespace Lexeme

def source : Lexeme → List Char
  | .char c => [c]
  | .escaped => ['\\', '[', '[']
  | .enclosed brackets inner => brackets.opening ++ (inner ++ brackets.closing)
  | .unterminated brackets rest => brackets.opening ++ rest

def tag? : Lexeme → Option Tag
  | .enclosed brackets inner => brackets.read inner
  | _ => none

/-- What is wrong with a lexeme by itself. -/
def fault? (line : Nat) (lexeme : Lexeme) : Option Fault :=
  match lexeme with
  | .enclosed _ _ =>
      if lexeme.tag?.isSome then none
      else some (.malformedTag (String.ofList lexeme.source) line)
  | .unterminated _ _ => some (.unterminatedTag line)
  | _ => none

end Lexeme

/-- The lexemes of numbered lines, each with its line. -/
def numberedLexemes (line : Nat) : List (List Char) → List (Nat × Lexeme)
  | [] => []
  | cs :: rest => (lexemes cs).map (line, ·) ++ numberedLexemes (line + 1) rest

/-- The fault of the first tag of a source that is malformed or not terminated. -/
def firstFault? (source : String) : Option Fault :=
  (numberedLexemes 1 (Text.lines source.toList)).findSome? fun (line, lexeme) =>
    lexeme.fault? line

/-! ## Faults and their tags -/

/-- The line that a fault tells. -/
def Fault.line? : Fault → Option Nat
  | .unresolvedScalar _ line => some line
  | .unknownSequence _ line => some line
  | .unknownPredicate _ line => some line
  | .unknownFilter _ line => some line
  | .unterminatedTag line => some line
  | .malformedTag _ line => some line
  | .unclosedBlock _ line => some line
  | .mismatchedClose _ _ line => some line
  | .unexpectedClose _ line => some line
  | .unknownTemplate _ _ => none

/-- The tags, each on its line, that a fault can be about. -/
inductive Fault.IsAbout : Fault → Tag → Nat → Prop where
  | unresolvedScalar {name : String} {filters : List String} {line : Nat} :
      IsAbout (.unresolvedScalar name line) (.scalar name filters) line
  | unknownFilter {name filter : String} {filters : List String} {line : Nat} :
      filter ∈ filters → IsAbout (.unknownFilter filter line) (.scalar name filters) line
  | unknownSequence {sequence separator : String} {line : Nat} :
      IsAbout (.unknownSequence sequence line) (.opens (.list sequence) separator) line
  | unknownPredicate {predicate separator : String} {negated : Bool} {line : Nat} :
      IsAbout (.unknownPredicate predicate line)
        (.opens (.conditional predicate negated) separator) line
  | unclosedBlock {block : Block} {separator : String} {line : Nat} :
      IsAbout (.unclosedBlock block.opening line) (.opens block separator) line
  | mismatchedClose {expected : String} {block : Block} {line : Nat} :
      IsAbout (.mismatchedClose expected block.closing line) (.closes block) line
  | unexpectedClose {block : Block} {line : Nat} :
      IsAbout (.unexpectedClose block.name line) (.closes block) line

/-- Whether a fault is about a lexeme: what is wrong with it by itself, or with the tag it is. -/
def Lexeme.IsBlamed (lexeme : Lexeme) (line : Nat) (fault : Fault) : Prop :=
  lexeme.fault? line = some fault ∨ ∃ tag, lexeme.tag? = some tag ∧ fault.IsAbout tag line

end Scaffold.Template
