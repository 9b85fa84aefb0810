import Mathlib.Data.List.Induction
import Scaffold.Catalog.Builtin

/-!
# Catalogs by insertion

Of the templates inserted for one kind and verb the last one counts.  For a kind and a verb that no
template is inserted for, a catalog stays as it was.
-/

namespace Scaffold.Catalog

/-- The catalog with templates for verbs, inserted one after the other. -/
def insertAll (catalog : Catalog) (templates : List (Verb × Template)) : Catalog :=
  templates.foldl (fun made entry => made.insert entry.1 entry.2) catalog

/-- The last template of a kind for a verb. -/
def lastFor? (templates : List (Verb × Template)) (kind : ArtifactKind) (verb : Verb) :
    Option Template :=
  (templates.reverse.find? fun entry => kind = entry.2.kind ∧ verb = entry.1).map Prod.snd

variable {catalog : Catalog} {templates : List (Verb × Template)} {kind : ArtifactKind}
  {verb : Verb} {template : Template}

theorem insertAll_concat (entry : Verb × Template) :
    catalog.insertAll (templates ++ [entry]) =
      (catalog.insertAll templates).insert entry.1 entry.2 := by
  rw [insertAll, List.foldl_append]
  rfl

theorem get?_insertAll :
    (catalog.insertAll templates).get? kind verb =
      (lastFor? templates kind verb).or (catalog.get? kind verb) := by
  induction templates using List.reverseRecOn with
  | nil => rfl
  | append_singleton templates entry ih =>
      rw [insertAll_concat, lastFor?, List.reverse_concat, List.find?_cons]
      by_cases hentry : kind = entry.2.kind ∧ verb = entry.1
      · simp only [insert, if_pos hentry, decide_eq_true hentry, Option.map_some, Option.some_or]
      · simp only [insert, if_neg hentry, decide_eq_false hentry]
        exact ih

theorem exists_mem_of_lastFor? (h : lastFor? templates kind verb = some template) :
    ∃ entry ∈ templates, entry.1 = verb ∧ entry.2.kind = kind ∧ entry.2 = template := by
  obtain ⟨entry, hentry, heq⟩ := Option.map_eq_some_iff.1 h
  have hmem := List.mem_reverse.1 (List.mem_of_find?_eq_some hentry)
  have hfits := List.find?_some hentry
  obtain ⟨hkind, hverb⟩ : kind = entry.2.kind ∧ verb = entry.1 := of_decide_eq_true hfits
  exact ⟨entry, hmem, hverb.symm, hkind.symm, heq⟩

theorem isSome_lastFor?_iff :
    (lastFor? templates kind verb).isSome ↔
      ∃ entry ∈ templates, entry.1 = verb ∧ entry.2.kind = kind := by
  constructor
  · intro h
    obtain ⟨template, htemplate⟩ := Option.isSome_iff_exists.1 h
    obtain ⟨entry, hmem, hverb, hkind, -⟩ := exists_mem_of_lastFor? htemplate
    exact ⟨entry, hmem, hverb, hkind⟩
  · rintro ⟨entry, hmem, rfl, rfl⟩
    rw [lastFor?, Option.isSome_map, List.find?_isSome]
    exact ⟨entry, List.mem_reverse.2 hmem, decide_eq_true ⟨rfl, rfl⟩⟩

/-- A template for a kind and a verb is inserted, or there was one before. -/
theorem isSome_get?_insertAll_iff :
    ((catalog.insertAll templates).get? kind verb).isSome ↔
      (∃ entry ∈ templates, entry.1 = verb ∧ entry.2.kind = kind) ∨
        (catalog.get? kind verb).isSome := by
  rw [get?_insertAll, Option.isSome_or, Bool.or_eq_true, isSome_lastFor?_iff]

/-! ## Entries -/

theorem ofEntries_eq_insertAll (entries : List Entry) :
    ofEntries entries = empty.insertAll (entries.map fun entry => (entry.verb, entry.template)) := by
  rw [ofEntries, insertAll, List.foldl_map]

theorem exists_entry_of_get? {entries : List Entry}
    (h : (ofEntries entries).get? kind verb = some template) :
    ∃ entry ∈ entries, entry.verb = verb ∧ entry.template = template := by
  rw [ofEntries_eq_insertAll, get?_insertAll, empty, Option.or_none] at h
  obtain ⟨found, hfound, hverb, -, htemplate⟩ := exists_mem_of_lastFor? h
  obtain ⟨entry, hentry, rfl⟩ := List.mem_map.1 hfound
  exact ⟨entry, hentry, hverb, htemplate⟩

end Scaffold.Catalog
