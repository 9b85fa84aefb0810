import Mathlib.Data.List.TakeWhile
import Scaffold.Proofs.Text.Cutting

/-!
# Trimmed texts

Trimming takes white space from both ends and leaves none there.  So a text that is trimmed stays as
it is, and white space around a text makes no difference.
-/

namespace Scaffold.Text

/-- No white space at either end. -/
structure Trimmed (cs : List Char) : Prop where
  head : ∀ c ∈ cs.head?, isBlank c = false
  last : ∀ c ∈ cs.getLast?, isBlank c = false

variable {cs front back : List Char}

theorem Trimmed.trimChars_eq (h : Trimmed cs) : trimChars cs = cs := by
  by_cases hne : cs = []
  · rw [hne, trimChars_nil]
  · have hpadded := trimChars_padded (List.forall_mem_nil (fun c => isBlank c = true))
      (List.forall_mem_nil (fun c => isBlank c = true)) hne h.head h.last
    rwa [List.append_nil, List.nil_append] at hpadded

theorem head_dropWhile_isBlank (cs : List Char) :
    ∀ c ∈ (cs.dropWhile isBlank).head?, isBlank c = false := by
  intro c hc
  have hstop := List.head?_dropWhile_not isBlank cs
  rw [Option.mem_def.1 hc] at hstop
  exact hstop

/-- Only white space is taken from the end. -/
theorem exists_eq_trimEnd_append (cs : List Char) :
    ∃ back, (∀ c ∈ back, isBlank c = true) ∧ cs = trimEnd cs ++ back := by
  refine ⟨(cs.reverse.takeWhile isBlank).reverse, fun c hc => ?_, ?_⟩
  · exact List.mem_takeWhile_imp (List.mem_reverse.1 hc)
  · rw [trimEnd, ← List.reverse_append, List.takeWhile_append_dropWhile, List.reverse_reverse]

/-- Trimming takes white space from the ends, and nothing else. -/
theorem exists_eq_append_trimChars (cs : List Char) :
    ∃ front back, (∀ c ∈ front, isBlank c = true) ∧ (∀ c ∈ back, isBlank c = true) ∧
      cs = front ++ (trimChars cs ++ back) := by
  obtain ⟨back, hback, hend⟩ := exists_eq_trimEnd_append (cs.dropWhile isBlank)
  refine ⟨cs.takeWhile isBlank, back, fun _ hc => List.mem_takeWhile_imp hc, hback, ?_⟩
  rw [trimChars, ← hend, List.takeWhile_append_dropWhile]

theorem mem_trimChars {c : Char} (hc : c ∈ cs) (hblank : isBlank c = false) : c ∈ trimChars cs := by
  obtain ⟨front, back, hfront, hback, hcs⟩ := exists_eq_append_trimChars cs
  rw [hcs, List.mem_append, List.mem_append] at hc
  rcases hc with hmem | hmem | hmem
  · rw [hfront c hmem] at hblank
    cases hblank
  · exact hmem
  · rw [hback c hmem] at hblank
    cases hblank

/-- From a text that does not end in white space only its front is taken. -/
theorem exists_eq_append_of_last (hlast : ∀ c ∈ cs.getLast?, isBlank c = false) :
    ∃ front, (∀ c ∈ front, isBlank c = true) ∧ cs = front ++ trimChars cs := by
  obtain ⟨front, back, hfront, hback, hcs⟩ := exists_eq_append_trimChars cs
  have hnil : back = [] := by
    by_cases hne : back = []
    · exact hne
    · have hmem : back.getLast hne ∈ cs.getLast? := by
        rw [hcs, List.getLast?_append, List.getLast?_append, List.getLast?_eq_some_getLast hne]
        rfl
      have hblank := hback _ (List.getLast_mem hne)
      rw [hlast _ hmem] at hblank
      cases hblank
  rw [hnil, List.append_nil] at hcs
  exact ⟨front, hfront, hcs⟩

theorem trimmed_trimChars (cs : List Char) : Trimmed (trimChars cs) := by
  refine ⟨fun c hc => head_dropWhile_isBlank cs c ?_, fun c hc =>
    head_dropWhile_isBlank (cs.dropWhile isBlank).reverse c ?_⟩
  -- What is taken from the end leaves the front as it was.
  · obtain ⟨back, -, hend⟩ := exists_eq_trimEnd_append (cs.dropWhile isBlank)
    rw [trimChars, Option.mem_def] at hc
    rw [hend, List.head?_append, hc]
    rfl
  · rwa [trimChars, trimEnd, List.getLast?_reverse] at hc

theorem trimChars_of_blank (h : ∀ c ∈ cs, isBlank c = true) : trimChars cs = [] := by
  rw [trimChars, ← List.append_nil cs, List.dropWhile_append_of_pos h]
  rfl

theorem trimChars_surrounded (hfront : ∀ c ∈ front, isBlank c = true)
    (hback : ∀ c ∈ back, isBlank c = true) (cs : List Char) :
    trimChars (front ++ (cs ++ back)) = trimChars cs := by
  obtain ⟨start, rest, hstart, hrest, hcs⟩ := exists_eq_append_trimChars cs
  have hfronts : ∀ c ∈ front ++ start, isBlank c = true :=
    List.forall_mem_append.2 ⟨hfront, hstart⟩
  have hbacks : ∀ c ∈ rest ++ back, isBlank c = true :=
    List.forall_mem_append.2 ⟨hrest, hback⟩
  have hwhole : front ++ (cs ++ back) = (front ++ start) ++ (trimChars cs ++ (rest ++ back)) := by
    calc front ++ (cs ++ back)
        _ = front ++ ((start ++ (trimChars cs ++ rest)) ++ back) := by rw [← hcs]
        _ = (front ++ start) ++ (trimChars cs ++ (rest ++ back)) := by
          simp only [List.append_assoc]
  have htrimmed := trimmed_trimChars cs
  rw [hwhole]
  by_cases hne : trimChars cs = []
  · rw [hne]
    exact trimChars_of_blank (List.forall_mem_append.2 ⟨hfronts, hbacks⟩)
  · exact trimChars_padded hfronts hbacks hne htrimmed.head htrimmed.last

end Scaffold.Text
