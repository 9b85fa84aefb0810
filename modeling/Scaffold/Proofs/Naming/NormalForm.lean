import Mathlib.Data.List.Basic
import Scaffold.Proofs.Naming.ClassName

/-!
# The form of file stems

A stem is a list of runs of small letters and digits with a hyphen between neighbours.  Every word
has a character, because the case that is remembered is that of a character of the current word; and
no word of small letters and digits is cut again.  So a stem is the stem of itself.
-/

namespace Scaffold

namespace Text

/-- Small letters and digits, at least one. -/
structure IsStemRun (run : List Char) : Prop where
  ne_nil : run ≠ []
  small : ∀ c ∈ run, c.isLower = true ∨ c.isDigit = true

/-- Runs with a hyphen between neighbours; without a run the text is empty. -/
def IsHyphenated (cs : List Char) : Prop :=
  ∃ runs, (∀ run ∈ runs, IsStemRun run) ∧ cs = List.intercalate ['-'] runs

/-! ## Words -/

/-- Where a case is remembered, the current word has the character that showed it. -/
theorem ne_nil_of_mem_humps {seen : Humps} {word cs : List Char}
    (hword : seen ≠ .boundary → word ≠ []) : ∀ run ∈ humps seen word cs, run ≠ [] := by
  fun_induction humps seen word cs with
  | case1 seen word _ => exact List.forall_mem_nil _
  | case2 seen word hne =>
      refine List.forall_mem_singleton.2 fun hnil => hne ?_
      rw [List.reverse_eq_nil_iff.1 hnil]
      rfl
  | case3 seen word c => exact List.forall_mem_singleton.2 (by simp)
  | case4 seen word c next rest _ ih =>
      exact List.forall_mem_cons.2 ⟨by simp, ih fun h => absurd rfl h⟩
  | case5 seen word c next rest _ hcut ih =>
      refine List.forall_mem_cons.2 ⟨?_, ih fun h => absurd rfl h⟩
      have hne : word ≠ [] := hword (by rw [hcut.1]; decide)
      simpa using hne
  | case6 seen word c next rest _ _ ih => exact ih fun _ => List.cons_ne_nil c word

theorem ne_nil_of_mem_words {cs word : List Char} (h : word ∈ words cs) : word ≠ [] := by
  obtain ⟨run, -, hword⟩ := List.mem_flatMap.1 h
  exact ne_nil_of_mem_humps (fun hseen => absurd rfl hseen) word hword

/-- Without capital letters there is no case change to cut at. -/
theorem humps_of_not_isUpper {seen : Humps} {word cs : List Char} (hne : word ++ cs ≠ [])
    (hcase : ∀ c ∈ cs, isUpper c = false) : humps seen word cs = [word.reverse ++ cs] := by
  fun_induction humps seen word cs with
  | case1 seen word hempty => exact absurd (by simpa using hempty) hne
  | case2 seen word _ => simp
  | case3 seen word c => simp
  | case4 seen word c next rest hcut ih =>
      rw [hcase next (by simp)] at hcut
      exact absurd hcut.2 Bool.false_ne_true
  | case5 seen word c next rest _ hcut ih =>
      rw [hcase c (by simp)] at hcut
      exact absurd hcut.2.1 Bool.false_ne_true
  | case6 seen word c next rest _ _ ih =>
      rw [ih (by simp) fun d hd => hcase d (List.mem_cons_of_mem c hd)]
      simp

theorem words_append {separator : Char} (h : isAlphanumeric separator = false)
    (front back : List Char) : words (front ++ separator :: back) = words front ++ words back := by
  unfold words
  rw [fields_append (by rw [h]; rfl), List.flatMap_append]

/-! ## Runs -/

theorem class_of_small {c : Char} (h : c.isLower = true ∨ c.isDigit = true) :
    c.toNat < 0x80 ∧ isAlphanumeric c = true ∧ isUpper c = false ∧ c.toLower = c := by
  have hascii : c.toNat < 0x80 := by
    rcases h with hlower | hdigit
    · exact lt_of_isPlainChar (isPlainChar_of_isLower hlower)
    · exact lt_of_isPlainChar (isPlainChar_of_isDigit hdigit)
  exact ⟨hascii, forall_ascii (P := fun c => (c.isLower = true ∨ c.isDigit = true) →
    isAlphanumeric c = true ∧ isUpper c = false ∧ c.toLower = c) (by decide +kernel) hascii h⟩

theorem small_toLower {c : Char} (hascii : c.toNat < 0x80) (h : isAlphanumeric c = true) :
    c.toLower.isLower = true ∨ c.toLower.isDigit = true :=
  forall_ascii (P := fun c => isAlphanumeric c = true →
    (c.toLower.isLower = true ∨ c.toLower.isDigit = true)) (by decide +kernel) hascii h

namespace IsStemRun

variable {run : List Char}

theorem words_eq (h : IsStemRun run) : words run = [run] := by
  have hone : fields (fun c => !isAlphanumeric c) run = [run] := by
    apply fields_of_clean
    intro c hc
    rw [(class_of_small (h.small c hc)).2.1]
    rfl
  have hwhole : humps .boundary [] run = [run] :=
    humps_of_not_isUpper h.ne_nil fun c hc => (class_of_small (h.small c hc)).2.2.1
  rw [words, hone, List.flatMap_singleton, hwhole]

theorem lowerWord_eq (h : IsStemRun run) : lowerWord run = run := by
  rw [lowerWord_of_ascii fun c hc => (class_of_small (h.small c hc)).1]
  exact map_eq_self fun c hc => (class_of_small (h.small c hc)).2.2.2

end IsStemRun

/-- The words of hyphenated runs are the runs. -/
theorem words_intercalate {runs : List (List Char)} (h : ∀ run ∈ runs, IsStemRun run) :
    words (List.intercalate ['-'] runs) = runs := by
  induction runs with
  | nil => rfl
  | cons first rest ih =>
      obtain ⟨hfirst, hrest⟩ := List.forall_mem_cons.1 h
      cases rest with
      | nil => rw [List.intercalate_singleton, hfirst.words_eq]
      | cons second rest =>
          rw [List.intercalate_cons_cons, List.append_assoc, List.singleton_append,
            words_append (by decide +kernel), hfirst.words_eq, ih hrest]
          rfl

/-- Hyphenated runs are in kebab case already. -/
theorem kebabCase_of_isHyphenated {cs : List Char} (h : IsHyphenated cs) : kebabCase cs = cs := by
  obtain ⟨runs, hruns, rfl⟩ := h
  have hlower : runs.map lowerWord = runs :=
    map_eq_self fun run hrun => (hruns run hrun).lowerWord_eq
  rw [kebabCase, words_intercalate hruns, hlower]

theorem isStemRun_lowerWord {cs word : List Char} (hascii : ∀ c ∈ cs, c.toNat < 0x80)
    (h : word ∈ words cs) : IsStemRun (lowerWord word) := by
  rw [lowerWord_of_ascii fun c hc => hascii c (mem_of_mem_words h hc).1]
  refine ⟨?_, fun c hc => ?_⟩
  · rw [Ne, List.map_eq_nil_iff]
    exact ne_nil_of_mem_words h
  · obtain ⟨d, hd, rfl⟩ := List.mem_map.1 hc
    obtain ⟨hmem, hfound⟩ := mem_of_mem_words h hd
    exact small_toLower (hascii d hmem) hfound

theorem isHyphenated_kebabCase {cs : List Char} (hascii : ∀ c ∈ cs, c.toNat < 0x80) :
    IsHyphenated (kebabCase cs) := by
  refine ⟨(words cs).map lowerWord, fun run hrun => ?_, rfl⟩
  obtain ⟨word, hword, rfl⟩ := List.mem_map.1 hrun
  exact isStemRun_lowerWord hascii hword

/-! ## Ends -/

namespace IsHyphenated

variable {cs : List Char}

/-- Only runs stand at the ends. -/
theorem small_of_head? (h : IsHyphenated cs) {c : Char} (hc : c ∈ cs.head?) :
    c.isLower = true ∨ c.isDigit = true := by
  obtain ⟨runs, hruns, rfl⟩ := h
  cases runs with
  | nil => cases hc
  | cons first rest =>
      have hfirst := hruns first List.mem_cons_self
      obtain ⟨d, run, rfl⟩ := List.exists_cons_of_ne_nil hfirst.ne_nil
      have hd : (List.intercalate ['-'] ((d :: run) :: rest)).head? = some d := by
        cases rest <;> rfl
      rw [hd, Option.mem_some_iff] at hc
      rw [← hc]
      exact hfirst.small d List.mem_cons_self

theorem small_of_getLast? (h : IsHyphenated cs) {c : Char} (hc : c ∈ cs.getLast?) :
    c.isLower = true ∨ c.isDigit = true := by
  obtain ⟨runs, hruns, rfl⟩ := h
  induction runs with
  | nil => cases hc
  | cons first rest ih =>
      obtain ⟨hfirst, hrest⟩ := List.forall_mem_cons.1 hruns
      cases rest with
      | nil =>
          rw [List.intercalate_singleton] at hc
          exact hfirst.small c (List.mem_of_mem_getLast? hc)
      | cons second rest =>
          have hne : List.intercalate ['-'] (second :: rest) ≠ [] := fun hnil =>
            (hrest second List.mem_cons_self).ne_nil
              (eq_nil_of_intercalate_eq_nil hnil second List.mem_cons_self)
          rw [List.intercalate_cons_cons, List.getLast?_append_of_ne_nil _ hne] at hc
          exact ih hrest hc

end IsHyphenated

end Text

namespace Naming

/-- The stem of a table whose name is an identifier is empty or has runs of small letters and digits
with single hyphens between them; it is the stem of itself, and the table's name in kebab case. -/
theorem file_stem_is_normal {table : String} (htable : isIdentifier table = true) :
    Text.IsHyphenated (fileStem table).toList ∧
      '/' ∉ (fileStem table).toList ∧ '.' ∉ (fileStem table).toList ∧
      (fileStem table).toList.head? ≠ some '-' ∧ (fileStem table).toList.getLast? ≠ some '-' ∧
      fileStem (fileStem table) = fileStem table ∧
      ∀ naming : Naming, naming.apply table .kebab = fileStem table := by
  have hascii := Text.lt_of_isPlain (Text.isPlain_of_isIdentifier htable)
  have hkebab : ∀ name : String, fileStem name = String.ofList (Text.kebabCase name.toList) :=
    fun name => (kebab_eq_fileStem {} name).symm
  have hform : Text.IsHyphenated (fileStem table).toList := by
    rw [hkebab, String.toList_ofList]
    exact Text.isHyphenated_kebabCase hascii
  have hnot : ∀ c, Text.isStemPart c = false → c ∉ (fileStem table).toList := by
    intro c hc hmem
    rw [isStemPart_of_mem_fileStem htable hmem] at hc
    cases hc
  refine ⟨hform, hnot '/' (by decide), hnot '.' (by decide), fun hhead => ?_, fun hlast => ?_, ?_,
    fun naming => kebab_eq_fileStem naming table⟩
  · exact absurd (hform.small_of_head? hhead) (by decide)
  · exact absurd (hform.small_of_getLast? hlast) (by decide)
  · rw [hkebab (fileStem table), Text.kebabCase_of_isHyphenated hform, String.ofList_toList]

/-- Cuts before and after capital letters, underscores in a row, and a digit that keeps its case. -/
theorem order_lines_stem_is_normal :
    isIdentifier "dbo._HTTPOrder__Lines2" = true ∧
      fileStem "dbo._HTTPOrder__Lines2" = "dbo-http-order-lines2" ∧
      fileStem "dbo-http-order-lines2" = "dbo-http-order-lines2" := by
  have htable : isIdentifier "dbo._HTTPOrder__Lines2" = true := by decide +kernel
  have hstem : fileStem "dbo._HTTPOrder__Lines2" = "dbo-http-order-lines2" := by decide +kernel
  obtain ⟨-, -, -, -, -, hsame, -⟩ := file_stem_is_normal htable
  rw [hstem] at hsame
  exact ⟨htable, hstem, hsame⟩

end Naming

end Scaffold
