/-!
# Named entries

Lists of values under names, kept in the order of the names, so that lists with the same content
are equal.
-/

namespace Scaffold.Entries

/-- Puts a value under a name, in place of an earlier one, into entries ordered by name. -/
def put {α : Type} (name : String) (value : α) : List (String × α) → List (String × α)
  | [] => [(name, value)]
  | (other, kept) :: entries =>
      if name = other then (name, value) :: entries
      else if name < other then (name, value) :: (other, kept) :: entries
      else (other, kept) :: put name value entries

theorem lookup_put {α : Type} (name other : String) (value : α)
    (entries : List (String × α)) :
    (put name value entries).lookup other =
      if other = name then some value else entries.lookup other := by
  have beq_decide (a b : String) : (a == b) = decide (a = b) := rfl
  induction entries with
  | nil => by_cases h : other = name <;> simp [put, List.lookup_cons, beq_decide, h]
  | cons entry entries ih =>
      obtain ⟨key, kept⟩ := entry
      simp only [put]
      split
      · rename_i h
        subst h
        by_cases h : other = name <;> simp [List.lookup_cons, beq_decide, h]
      · split
        · by_cases h : other = name <;> simp [List.lookup_cons, beq_decide, h]
        · rename_i h _
          by_cases hk : other = key
          · simp [hk, Ne.symm h]
          · simp [List.lookup_cons, beq_decide, hk, ih]

/-- The entries of a list, of which the last one counts where a name is given twice. -/
def ofList {α : Type} (entries : List (String × α)) : List (String × α) :=
  entries.foldl (fun kept (name, value) => put name value kept) []

end Scaffold.Entries
