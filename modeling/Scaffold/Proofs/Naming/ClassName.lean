import Scaffold.Proofs.Naming.Plain

/-!
# Class names

The styles of names change the case of letters and leave out what is neither a letter nor a digit.
So the class of a table begins with the first letter or digit of the table's name, and is a name
that code can use if this is a letter.  A name of underscores has nothing to begin with, nor has the
singular of a lone `s`.
-/

namespace Scaffold

/-- A letter first, then letters and digits. -/
def isClassName : List Char → Bool
  | [] => false
  | c :: cs => c.isAlpha && cs.all Text.isAsciiAlphanumeric

namespace Text

/-! ## Case -/

theorem toLower_of_not_ascii {c : Char} (hc : ¬ c.toNat < 0x80) : c.toLower = c :=
  dif_neg fun hupper => hc (Nat.lt_of_le_of_lt (UInt32.le_iff_toNat_le.1 hupper.2) (by decide))

/-- The case of ASCII letters tells nothing about their class. -/
theorem class_toLower (c : Char) :
    c.toLower.isAlpha = c.isAlpha ∧ isAsciiAlphanumeric c.toLower = isAsciiAlphanumeric c := by
  by_cases hc : c.toNat < 0x80
  · exact forall_ascii (P := fun c => c.toLower.isAlpha = c.isAlpha ∧
      isAsciiAlphanumeric c.toLower = isAsciiAlphanumeric c) (by decide +kernel) hc
  · rw [toLower_of_not_ascii hc]
    exact ⟨rfl, rfl⟩

theorem toLower_case {c : Char} (hc : c.toNat < 0x80) :
    c.toUpper.toLower = c.toLower ∧ c.toLower.toLower = c.toLower :=
  forall_ascii (P := fun c => c.toUpper.toLower = c.toLower ∧ c.toLower.toLower = c.toLower)
    (by decide +kernel) hc

theorem all_map_toLower (cs : List Char) :
    (cs.map Char.toLower).all isAsciiAlphanumeric = cs.all isAsciiAlphanumeric := by
  rw [List.all_map]
  exact congrArg cs.all (funext fun c => (class_toLower c).2)

theorem isClassName_map_toLower (cs : List Char) :
    isClassName (cs.map Char.toLower) = isClassName cs := by
  cases cs with
  | nil => rfl
  | cons c cs =>
      rw [List.map_cons, isClassName, isClassName, (class_toLower c).1, all_map_toLower]

theorem map_toLower_capitalized {word : List Char} (hascii : ∀ c ∈ word, c.toNat < 0x80) :
    (capitalized word).map Char.toLower = word.map Char.toLower := by
  cases word with
  | nil => rfl
  | cons c word =>
      obtain ⟨hc, hword⟩ := List.forall_mem_cons.1 hascii
      have hupper : upperOf c = [c.toUpper] := by rw [upperOf, if_pos hc]
      have hrest : (word.map Char.toLower).map Char.toLower = word.map Char.toLower := by
        rw [List.map_map]
        exact List.map_congr_left fun d hd => (toLower_case (hword d hd)).2
      rw [capitalized, hupper, lowerWord_of_ascii hword, List.map_append, hrest, List.map_cons,
        (toLower_case hc).1]
      rfl

/-- A class name has the letters and digits of the text, up to their case. -/
theorem map_toLower_pascalCase {cs : List Char} (hascii : ∀ c ∈ cs, c.toNat < 0x80) :
    (pascalCase cs).map Char.toLower = (cs.filter isAlphanumeric).map Char.toLower := by
  have hwords : ∀ words : List (List Char), (∀ word ∈ words, ∀ c ∈ word, c.toNat < 0x80) →
      (words.flatMap capitalized).map Char.toLower = words.flatten.map Char.toLower := by
    intro words hwords
    induction words with
    | nil => rfl
    | cons word words ih =>
        obtain ⟨hword, hrest⟩ := List.forall_mem_cons.1 hwords
        rw [List.flatMap_cons, List.flatten_cons, List.map_append, List.map_append,
          map_toLower_capitalized hword, ih hrest]
  rw [pascalCase, ← flatten_words]
  exact hwords _ fun word hword c hc => hascii c (mem_of_mem_words hword hc).1

/-! ## Letters and digits -/

theorem eq_nil_of_intercalate_eq_nil {separator : List Char} {texts : List (List Char)}
    (h : List.intercalate separator texts = []) : ∀ text ∈ texts, text = [] := by
  induction texts with
  | nil => exact List.forall_mem_nil _
  | cons first rest ih =>
      cases rest with
      | nil => exact List.forall_mem_singleton.2 (by simpa using h)
      | cons second rest =>
          rw [List.intercalate_cons_cons, List.append_eq_nil_iff, List.append_eq_nil_iff] at h
          exact List.forall_mem_cons.2 ⟨h.1.1, ih h.2⟩

theorem words_eq_nil {cs : List Char} (h : ∀ c ∈ cs, isAlphanumeric c = false) : words cs = [] := by
  have hflat : (fields (fun c => !isAlphanumeric c) cs).flatten = [] := by
    rw [flatten_fields, List.filter_eq_nil_iff]
    intro c hc
    rw [h c hc]
    decide
  rw [words, List.flatMap_eq_nil_iff]
  intro field hfield
  rw [List.flatten_eq_nil_iff.1 hflat field hfield]
  rfl

section Letters

variable {cs : List Char} (hascii : ∀ c ∈ cs, c.toNat < 0x80)

include hascii

theorem all_filter_isAlphanumeric : (cs.filter isAlphanumeric).all isAsciiAlphanumeric = true := by
  rw [List.all_eq_true]
  intro c hc
  obtain ⟨hmem, hfound⟩ := List.mem_filter.1 hc
  rwa [isAlphanumeric_of_ascii (hascii c hmem)] at hfound

theorem all_pascalCase : (pascalCase cs).all isAsciiAlphanumeric = true := by
  rw [← all_map_toLower, map_toLower_pascalCase hascii, all_map_toLower]
  exact all_filter_isAlphanumeric hascii

/-- What follows the first letter or digit does not matter. -/
theorem isClassName_pascalCase_iff :
    isClassName (pascalCase cs) = true ↔
      ∃ c, cs.find? isAlphanumeric = some c ∧ c.isAlpha = true := by
  rw [← isClassName_map_toLower, map_toLower_pascalCase hascii, isClassName_map_toLower,
    ← List.head?_filter]
  have hall := all_filter_isAlphanumeric hascii
  cases hletters : cs.filter isAlphanumeric with
  | nil => simp [isClassName]
  | cons c rest =>
      rw [hletters, List.all_cons, Bool.and_eq_true] at hall
      simp [isClassName, hall.2]

/-- A name in kebab case is empty only if it has no words. -/
theorem kebabCase_eq_nil_iff : kebabCase cs = [] ↔ ¬ ∃ c ∈ cs, isAlphanumeric c = true := by
  constructor
  · rintro h ⟨c, hc, hfound⟩
    have hflat : c ∈ (words cs).flatten := by
      rw [flatten_words]
      exact List.mem_filter.2 ⟨hc, hfound⟩
    obtain ⟨word, hword, hmem⟩ := List.mem_flatten.1 hflat
    have hlower : lowerWord word = [] :=
      eq_nil_of_intercalate_eq_nil h _ (List.mem_map_of_mem hword)
    rw [lowerWord_of_ascii fun d hd => hascii d (mem_of_mem_words hword hd).1,
      List.map_eq_nil_iff] at hlower
    rw [hlower] at hmem
    cases hmem
  · intro h
    have hnone : ∀ c ∈ cs, isAlphanumeric c = false := fun c hc =>
      Bool.eq_false_iff.2 fun hfound => h ⟨c, hc, hfound⟩
    rw [kebabCase, words_eq_nil hnone]
    rfl

end Letters

end Text

/-! ## Identifiers -/

theorem isAlphanumeric_of_isAlpha {c : Char} (h : c.isAlpha = true) :
    Text.isAlphanumeric c = true := by
  have hpart : isNamePart c = true := by rw [isNamePart, h, Bool.true_or, Bool.true_or]
  rw [Text.isAlphanumeric_of_ascii (lt_of_isNamePart hpart), Text.isAsciiAlphanumeric, h,
    Bool.true_or]

/-- The first letter or digit of a text is a letter. -/
def LetterFirst (cs : List Char) : Prop :=
  ∃ c, cs.find? Text.isAlphanumeric = some c ∧ c.isAlpha = true

/-- The text has no letter or digit but the `s` at its end. -/
def BarePlural (cs : List Char) : Prop :=
  ∃ stem, cs = stem ++ ['s'] ∧ ∀ c ∈ stem, Text.isAlphanumeric c = false

section Singular

variable {stem back cs : List Char} {c : Char}

theorem letterFirst_append_cons (hc : c.isAlpha = true) :
    LetterFirst (stem ++ c :: back) ↔
      LetterFirst stem ∨ ∀ d ∈ stem, Text.isAlphanumeric d = false := by
  have hfound : Text.isAlphanumeric c = true := isAlphanumeric_of_isAlpha hc
  rw [LetterFirst, LetterFirst, List.find?_append, List.find?_cons_of_pos hfound]
  cases hstem : stem.find? Text.isAlphanumeric with
  | none =>
      refine iff_of_true ⟨c, rfl, hc⟩ (.inr fun d hd => ?_)
      exact Bool.eq_false_iff.2 (List.find?_eq_none.1 hstem d hd)
  | some first =>
      refine (or_iff_left fun hnone => ?_).symm
      have hfirst := List.find?_some hstem
      rw [hnone first (List.mem_of_find?_eq_some hstem)] at hfirst
      cases hfirst

theorem barePlural_append_iff :
    BarePlural (stem ++ ['s']) ↔ ∀ d ∈ stem, Text.isAlphanumeric d = false := by
  constructor
  · rintro ⟨bare, hcut, hbare⟩
    rwa [List.append_cancel_right hcut]
  · exact fun h => ⟨stem, rfl, h⟩

theorem not_letterFirst (h : ∀ d ∈ stem, Text.isAlphanumeric d = false) : ¬ LetterFirst stem := by
  rintro ⟨first, hfirst, -⟩
  have hfound := List.find?_some hfirst
  rw [h first (List.mem_of_find?_eq_some hfirst)] at hfound
  cases hfound

/-- Only a plural ending that follows nothing but separators is lost with all its letters. -/
theorem letterFirst_singularChars :
    LetterFirst (singularChars cs) ↔ LetterFirst cs ∧ ¬ BarePlural cs := by
  have hletter : ∀ c : Char, c.isAlpha = true → Text.isAlphanumeric c ≠ false := fun c hc =>
    Bool.ne_false_iff.2 (isAlphanumeric_of_isAlpha hc)
  rw [singularChars]
  split
  -- The `y` that stands for `ies` is a letter as the `i` was.
  · next stem hies =>
      rw [Text.dropEnd?_eq_some_iff] at hies
      have hplural : ¬ BarePlural cs := by
        have hcut : cs = (stem ++ ['i', 'e']) ++ ['s'] := by simpa using hies
        rw [hcut, barePlural_append_iff]
        intro hbare
        exact hletter 'i' (by decide) (hbare 'i' (by simp))
      rw [and_iff_left hplural, hies, letterFirst_append_cons (by decide),
        letterFirst_append_cons (by decide)]
  · split
    · next stem hs =>
        rw [Text.dropEnd?_eq_some_iff] at hs
        rw [hs, barePlural_append_iff]
        -- After another `s` it is kept, and that one is a letter in front of it.
        split
        · next hlast =>
            rw [and_iff_left]
            intro hbare
            exact hletter 's' (by decide) (hbare 's' (List.mem_of_getLast? hlast))
        · rw [letterFirst_append_cons (by decide), or_and_right, and_iff_left_of_imp,
            or_iff_left]
          · exact fun h => h.2 h.1
          · exact fun hfirst hbare => not_letterFirst hbare hfirst
    · next hs =>
        rw [and_iff_left]
        rintro ⟨stem, hcut, -⟩
        rw [Text.dropEnd?_eq_some_iff.2 hcut] at hs
        cases hs

end Singular

namespace Naming

/-- A file stem is empty for a name without letters and digits. -/
theorem fileStem_ne_empty_iff {table : String} (htable : isIdentifier table = true) :
    fileStem table ≠ "" ↔ ∃ c ∈ table.toList, Text.isAlphanumeric c = true := by
  have hascii := Text.lt_of_isPlain (Text.isPlain_of_isIdentifier htable)
  rw [← kebab_eq_fileStem {}, apply, Ne, ← String.toList_eq_nil_iff, String.toList_ofList,
    Text.kebabCase_eq_nil_iff hascii, Classical.not_not]

/-- Table names that are identifiers give file stems that are not empty if there is a letter or
digit in them, and classes that code can name if the first letter or digit of their last part is a
letter, and the part is more than a plural ending where classes are singular. -/
theorem class_name_is_usable_iff (naming : Naming) {table : String}
    (htable : isIdentifier table = true) :
    (fileStem table ≠ "" ↔ ∃ c ∈ table.toList, Text.isAlphanumeric c = true) ∧
      (naming.className table).toList.all Text.isAsciiAlphanumeric = true ∧
      (isClassName (naming.className table).toList = true ↔
        LetterFirst (unqualified table.toList) ∧
          ¬ (naming.singularClasses = true ∧ BarePlural (unqualified table.toList))) := by
  have hbase : ∀ c ∈ unqualified table.toList, c.toNat < 0x80 := fun c hc =>
    lt_of_isNamePart (isNamePart_of_mem_field htable (unqualified_mem_fields table.toList) hc)
  refine ⟨fileStem_ne_empty_iff htable, ?_⟩
  rw [className, String.toList_ofList]
  by_cases hsingular : naming.singularClasses = true
  · have hascii := lt_of_mem_singularChars hbase
    rw [if_pos hsingular, and_iff_right hsingular, ← letterFirst_singularChars]
    exact ⟨Text.all_pascalCase hascii, Text.isClassName_pascalCase_iff hascii⟩
  · rw [if_neg hsingular, and_iff_left fun h => hsingular h.1]
    exact ⟨Text.all_pascalCase hbase, Text.isClassName_pascalCase_iff hbase⟩

theorem users_class_is_usable :
    isIdentifier "dbo._users" = true ∧ fileStem "dbo._users" ≠ "" ∧
      isClassName (className { singularClasses := true } "dbo._users").toList = true := by
  have htable : isIdentifier "dbo._users" = true := by decide +kernel
  have hbase : unqualified "dbo._users".toList = ['_', 'u', 's', 'e', 'r'] ++ ['s'] := by
    decide +kernel
  have hplural : ¬ BarePlural (['_', 'u', 's', 'e', 'r'] ++ ['s']) := by
    rw [barePlural_append_iff]
    intro hbare
    exact absurd (hbare 'u' (by decide)) (by decide +kernel)
  obtain ⟨hstem, -, hclass⟩ := class_name_is_usable_iff { singularClasses := true } htable
  rw [hbase] at hclass
  exact ⟨htable, hstem.2 ⟨'u', by decide +kernel, by decide +kernel⟩,
    hclass.2 ⟨⟨'u', by decide +kernel, by decide⟩, fun h => hplural h.2⟩⟩

/-- Names without letters, with a digit in front of them, and of nothing but a plural ending. -/
theorem unusable_class_names :
    (isIdentifier "_" = true ∧ fileStem "_" = "" ∧
        ∀ naming : Naming, naming.className "_" = "") ∧
      (isIdentifier "_2024" = true ∧
        ∀ naming : Naming, isClassName (naming.className "_2024").toList = false) ∧
      isIdentifier "s" = true ∧ className { singularClasses := true } "s" = "" := by
  refine ⟨⟨by decide +kernel, by decide +kernel, ?_⟩, ⟨by decide +kernel, ?_⟩, by decide +kernel,
    by decide +kernel⟩
  · rintro ⟨_ | _⟩ <;> decide +kernel
  · rintro ⟨_ | _⟩ <;> decide +kernel

end Naming

end Scaffold
