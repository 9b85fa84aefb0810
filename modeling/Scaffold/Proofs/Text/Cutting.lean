import Scaffold.Text.Blank
import Scaffold.Text.Fields

/-!
# Cutting what was put together

Fields and lines that hold no separator come back from the text they make, and so does what stands
between white space.
-/

namespace Scaffold.Text

/-! ## Fields -/

theorem fields_of_clean {isSeparator : Char → Bool} {cs : List Char}
    (hclean : ∀ c ∈ cs, isSeparator c = false) : fields isSeparator cs = [cs] := by
  induction cs with
  | nil => rfl
  | cons c cs ih =>
      have hc : isSeparator c ≠ true := Bool.eq_false_iff.1 (hclean c List.mem_cons_self)
      rw [fields, if_neg hc, ih fun x hx => hclean x (List.mem_cons_of_mem c hx)]

theorem fields_append_separator {isSeparator : Char → Bool} {front : List Char} {separator : Char}
    (hclean : ∀ c ∈ front, isSeparator c = false) (hseparator : isSeparator separator = true)
    (back : List Char) :
    fields isSeparator (front ++ separator :: back) = front :: fields isSeparator back := by
  induction front with
  | nil => rw [List.nil_append, fields, if_pos hseparator]
  | cons c front ih =>
      have hc : isSeparator c ≠ true := Bool.eq_false_iff.1 (hclean c List.mem_cons_self)
      rw [List.cons_append, fields, if_neg hc,
        ih fun x hx => hclean x (List.mem_cons_of_mem c hx)]

theorem fields_append {isSeparator : Char → Bool} {separator : Char}
    (hseparator : isSeparator separator = true) (front back : List Char) :
    fields isSeparator (front ++ separator :: back) =
      fields isSeparator front ++ fields isSeparator back := by
  induction front with
  | nil =>
      rw [List.nil_append, fields, fields, if_pos hseparator]
      rfl
  | cons c front ih =>
      rw [List.cons_append, fields, ih, fields]
      by_cases hc : isSeparator c = true
      · rw [if_pos hc, if_pos hc, List.cons_append]
      · rw [if_neg hc, if_neg hc]
        cases hfields : fields isSeparator front with
        | nil => exact absurd hfields (fields_ne_nil isSeparator front)
        | cons field rest => rfl

theorem intercalate_fields (separator : Char) (cs : List Char) :
    List.intercalate [separator] (fields (· = separator) cs) = cs := by
  induction cs with
  | nil => rfl
  | cons c cs ih =>
      rw [fields]
      cases hfields : fields (· = separator) cs with
      | nil => exact absurd hfields (fields_ne_nil _ cs)
      | cons field rest =>
          rw [hfields] at ih
          by_cases hc : c = separator
          · rw [if_pos (decide_eq_true hc), List.intercalate_cons_cons, ih, hc]
            rfl
          · rw [if_neg (by simpa using hc)]
            cases rest with
            | nil => simpa using ih
            | cons next rest =>
                rw [List.intercalate_cons_cons] at ih ⊢
                rw [← ih]
                rfl

theorem fields_join {separator : String} {c : Char} (hseparator : separator.toList = [c])
    {first : String} {rest : List String}
    (hclean : ∀ text ∈ first :: rest, c ∉ text.toList) :
    fields (· = c) (join separator (first :: rest)).toList =
      (first :: rest).map String.toList := by
  have hfirst : ∀ {text : String}, c ∉ text.toList → ∀ x ∈ text.toList, decide (x = c) = false := by
    intro text hnot x hx
    rw [decide_eq_false_iff_not]
    rintro rfl
    exact hnot hx
  induction rest generalizing first with
  | nil => exact fields_of_clean (hfirst (hclean first List.mem_cons_self))
  | cons second rest ih =>
      rw [join, String.toList_append, String.toList_append, hseparator, List.append_assoc,
        List.singleton_append,
        fields_append_separator (hfirst (hclean first List.mem_cons_self)) (decide_eq_true rfl),
        ih fun text htext => hclean text (List.mem_cons_of_mem first htext)]
      rfl

theorem exists_toList_join (separator first : String) (rest : List String) :
    ∃ back, (join separator (first :: rest)).toList = first.toList ++ back := by
  cases rest with
  | nil => exact ⟨[], (List.append_nil first.toList).symm⟩
  | cons second rest =>
      refine ⟨separator.toList ++ (join separator (second :: rest)).toList, ?_⟩
      rw [join, String.toList_append, String.toList_append, List.append_assoc]

theorem mem_join {separator : String} {texts : List String} {c : Char}
    (h : c ∈ (join separator texts).toList) :
    c ∈ separator.toList ∨ ∃ text ∈ texts, c ∈ text.toList := by
  induction texts with
  | nil => cases h
  | cons first rest ih =>
      cases rest with
      | nil => exact .inr ⟨first, List.mem_cons_self, h⟩
      | cons second rest =>
          rw [join, String.toList_append, String.toList_append, List.mem_append,
            List.mem_append] at h
          rcases h with (hfirst | hseparator) | hrest
          · exact .inr ⟨first, List.mem_cons_self, hfirst⟩
          · exact .inl hseparator
          · rcases ih hrest with hseparator | ⟨text, htext, hmem⟩
            · exact .inl hseparator
            · exact .inr ⟨text, List.mem_cons_of_mem first htext, hmem⟩

/-! ## Beginnings and endings -/

theorem dropStart?_eq_some_iff {start cs rest : List Char} :
    dropStart? start cs = some rest ↔ cs = start ++ rest := by
  induction start generalizing cs with
  | nil => simp [dropStart?]
  | cons p start ih =>
      cases cs with
      | nil => simp [dropStart?]
      | cons c cs =>
          rw [dropStart?, List.cons_append, List.cons.injEq]
          by_cases hp : p = c
          · rw [if_pos hp, ih, and_iff_right hp.symm]
          · rw [if_neg hp]
            exact iff_of_false (by simp) fun h => hp h.1.symm

theorem dropEnd?_eq_some_iff {ending cs stem : List Char} :
    dropEnd? ending cs = some stem ↔ cs = stem ++ ending := by
  simp only [dropEnd?, Option.map_eq_some_iff, dropStart?_eq_some_iff]
  constructor
  · rintro ⟨rest, hreverse, rfl⟩
    rw [← List.reverse_reverse cs, hreverse, List.reverse_append, List.reverse_reverse]
  · rintro rfl
    exact ⟨stem.reverse, List.reverse_append, List.reverse_reverse stem⟩

/-! ## Separators -/

section Separators

variable {separator : Char} {front start back rest : List Char}

theorem cut_eq_none (h : separator ∉ rest) : cut separator rest = none := by
  cases hcut : cut separator rest with
  | none => rfl
  | some parts =>
      obtain ⟨hrest, -⟩ := cut_eq_some_iff.1 hcut
      rw [hrest] at h
      exact absurd (List.mem_append_right parts.1 List.mem_cons_self) h

theorem append_first_inj (hfront : separator ∉ front) (hstart : separator ∉ start)
    (h : front ++ separator :: back = start ++ separator :: rest) : front = start ∧ back = rest := by
  have hcut : cut separator (front ++ separator :: back) = some (front, back) :=
    cut_eq_some_iff.2 ⟨rfl, hfront⟩
  rw [h, cut_eq_some_iff.2 ⟨rfl, hstart⟩, Option.some.injEq, Prod.mk.injEq] at hcut
  exact ⟨hcut.1.symm, hcut.2.symm⟩

/-- The last separator of a text is the first one of the text read backwards. -/
theorem append_last_inj (hback : separator ∉ back) (hrest : separator ∉ rest)
    (h : front ++ separator :: back = start ++ separator :: rest) : front = start ∧ back = rest := by
  have hreverse := congrArg List.reverse h
  simp only [List.reverse_append, List.reverse_cons, List.append_assoc, List.singleton_append]
    at hreverse
  obtain ⟨hbacks, hfronts⟩ := append_first_inj (by rwa [List.mem_reverse])
    (by rwa [List.mem_reverse]) hreverse
  exact ⟨List.reverse_inj.1 hfronts, List.reverse_inj.1 hbacks⟩

end Separators

/-! ## Lines -/

theorem lines_feed (cs : List Char) : lines ('\n' :: cs) = ['\n'] :: lines cs := by
  rw [lines, if_pos rfl]

/-- Characters before a text start its first line. -/
theorem lines_append {front : List Char} (hne : front ≠ []) (hfeed : '\n' ∉ front)
    (back : List Char) :
    lines (front ++ back) =
      match lines back with
      | [] => [front]
      | line :: rest => (front ++ line) :: rest := by
  induction front with
  | nil => exact absurd rfl hne
  | cons c front ih =>
      rw [List.mem_cons, not_or] at hfeed
      rw [List.cons_append, lines, if_neg (Ne.symm hfeed.1)]
      cases front with
      | nil => rfl
      | cons d front =>
          rw [ih (List.cons_ne_nil d front) hfeed.2]
          cases lines back <;> rfl

theorem lines_eq_nil_iff {cs : List Char} : lines cs = [] ↔ cs = [] := by
  constructor
  · intro h
    rw [← flatten_lines cs, h]
    rfl
  · rintro rfl
    rfl

/-- A text that ends where a line ends, or is empty. -/
def WholeLines (cs : List Char) : Prop :=
  ∀ c ∈ cs.getLast?, c = '\n'

theorem wholeLines_iff {cs : List Char} :
    WholeLines cs ↔ cs.getLast?.all (fun c => c == '\n') = true := by
  rw [WholeLines]
  cases cs.getLast? <;> simp

theorem wholeLines_feed (front : List Char) : WholeLines (front ++ ['\n']) := by
  intro c hc
  rw [List.getLast?_concat] at hc
  exact (Option.some.inj hc).symm

theorem WholeLines.tail {c : Char} {cs : List Char} (h : WholeLines (c :: cs)) : WholeLines cs := by
  intro d hd
  refine h d ?_
  rw [List.getLast?_cons, Option.mem_def.1 hd]
  rfl

/-- What follows whole lines starts a line. -/
theorem lines_append_of_wholeLines {front : List Char} (h : WholeLines front) (back : List Char) :
    lines (front ++ back) = lines front ++ lines back := by
  induction front with
  | nil => rfl
  | cons c front ih =>
      rw [List.cons_append, lines, lines, ih h.tail]
      by_cases hc : c = '\n'
      · rw [if_pos hc, if_pos hc, List.cons_append]
      · rw [if_neg hc, if_neg hc]
        cases front with
        | nil => exact absurd (h c rfl) hc
        | cons d front =>
            cases hlines : lines (d :: front) with
            | nil => cases lines_eq_nil_iff.1 hlines
            | cons line rest => rfl

theorem length_lines_of_wholeLines {cs : List Char} (h : WholeLines cs) :
    (lines cs).length = cs.count '\n' := by
  induction cs with
  | nil => rfl
  | cons c cs ih =>
      have hrest := ih h.tail
      rw [lines]
      by_cases hc : c = '\n'
      · rw [if_pos hc, hc, List.count_cons_self, List.length_cons, hrest]
      · rw [if_neg hc, List.count_cons_of_ne hc, ← hrest]
        cases hlines : lines cs with
        | nil =>
            rw [lines_eq_nil_iff.1 hlines] at h
            exact absurd (h c rfl) hc
        | cons line rest => rfl

/-! ## Trimming -/

theorem trimChars_padded {front back cs : List Char} (hfront : ∀ c ∈ front, isBlank c = true)
    (hback : ∀ c ∈ back, isBlank c = true) (hne : cs ≠ [])
    (hhead : ∀ c ∈ cs.head?, isBlank c = false) (hlast : ∀ c ∈ cs.getLast?, isBlank c = false) :
    trimChars (front ++ (cs ++ back)) = cs := by
  have hstart : (front ++ (cs ++ back)).dropWhile isBlank = cs ++ back := by
    rw [List.dropWhile_append_of_pos hfront]
    cases cs with
    | nil => exact absurd rfl hne
    | cons c cs =>
        have hc : isBlank c = false := hhead c rfl
        rw [List.cons_append, List.dropWhile_cons, hc]
        rfl
  have hend : (cs ++ back).reverse.dropWhile isBlank = cs.reverse := by
    rw [List.reverse_append, List.dropWhile_append_of_pos fun c hc =>
      hback c (List.mem_reverse.1 hc)]
    cases hcs : cs.reverse with
    | nil => rfl
    | cons c front =>
        have hc : isBlank c = false := by
          apply hlast
          rw [← List.head?_reverse, hcs]
          rfl
        rw [List.dropWhile_cons, hc]
        rfl
  rw [trimChars, hstart, trimEnd, hend, List.reverse_reverse]

theorem trimChars_of_clean {cs : List Char} (hclean : ∀ c ∈ cs, isBlank c = false) :
    trimChars cs = cs := by
  by_cases hne : cs = []
  · rw [hne, trimChars_nil]
  · have hpadded := trimChars_padded (List.forall_mem_nil (fun c => isBlank c = true))
      (List.forall_mem_nil (fun c => isBlank c = true)) hne
      (fun c hc => hclean c (List.mem_of_mem_head? hc))
      (fun c hc => hclean c (List.mem_of_mem_getLast? hc))
    rw [List.append_nil, List.nil_append] at hpadded
    exact hpadded

end Scaffold.Text
