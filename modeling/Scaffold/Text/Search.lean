/-!
# Finding a text within another
-/

namespace Scaffold.Text

/-- Whether a text has another one in it. -/
def contains (part : List Char) : List Char → Bool
  | [] => part.isEmpty
  | c :: cs => part.isPrefixOf (c :: cs) || contains part cs

theorem contains_iff {part cs : List Char} : contains part cs ↔ part <:+: cs := by
  induction cs with
  | nil => simp [contains]
  | cons c cs ih => simp [contains, ih, List.infix_cons_iff]

end Scaffold.Text
