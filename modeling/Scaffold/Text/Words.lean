import Scaffold.Text.Alphanumeric
import Scaffold.Text.Case
import Scaffold.Text.Fields

/-!
# Words and case styles

A name is a sequence of words: runs of letters and digits, cut further where the case changes.
Each style writes the same words in its own way.
-/

namespace Scaffold.Text

/-- What the case of the letters read so far says about the next boundary. -/
inductive Humps where
  | boundary
  | lower
  | upper
deriving DecidableEq, Repr

/-- The case seen last, once a character is read; characters without case change nothing. -/
def Humps.next (seen : Humps) (c : Char) : Humps :=
  if isLower c then .lower else if isUpper c then .upper else seen

/-- The words of one run of letters and digits.  A word ends after a lower-case letter that an
upper-case one follows, and before the last of several upper-case letters that a lower-case one
follows.  `word` holds the characters of the current word, newest first. -/
def humps (seen : Humps) (word : List Char) : List Char → List (List Char)
  | [] => if word.isEmpty then [] else [word.reverse]
  | [c] => [(c :: word).reverse]
  | c :: next :: rest =>
      if seen.next c = .lower ∧ isUpper next then
        (c :: word).reverse :: humps .boundary [] (next :: rest)
      else if seen = .upper ∧ isUpper c ∧ isLower next then
        word.reverse :: humps .boundary [c] (next :: rest)
      else humps (seen.next c) (c :: word) (next :: rest)

/-- The words of a text, in order. -/
def words (cs : List Char) : List (List Char) :=
  (fields (fun c => !isAlphanumeric c) cs).flatMap (humps .boundary [])

/-- A word in lower case; a capital sigma at its end takes its final form. -/
def lowerWord : List Char → List Char
  | [] => []
  | ['Σ'] => ['ς']
  | c :: cs => lowerOf c ++ lowerWord cs

/-- A word with its first character in upper case and the rest in lower case. -/
def capitalized : List Char → List Char
  | [] => []
  | c :: cs => upperOf c ++ lowerWord cs

def pascalCase (cs : List Char) : List Char :=
  (words cs).flatMap capitalized

def camelCase (cs : List Char) : List Char :=
  match words cs with
  | [] => []
  | first :: rest => lowerWord first ++ rest.flatMap capitalized

def kebabCase (cs : List Char) : List Char :=
  List.intercalate ['-'] ((words cs).map lowerWord)

def snakeCase (cs : List Char) : List Char :=
  List.intercalate ['_'] ((words cs).map lowerWord)

def titleCase (cs : List Char) : List Char :=
  List.intercalate [' '] ((words cs).map capitalized)

end Scaffold.Text
