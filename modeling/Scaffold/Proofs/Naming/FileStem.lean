import Scaffold.Identifier
import Scaffold.Naming

/-!
# File stems

A stem is made of the letters and digits of a table's name, in lower case.  Identifiers are ASCII,
so their stems hold small letters, digits and hyphens only: a stem is one segment of a path and
has no suffix.
-/

namespace Scaffold

namespace Text

/-! ## Words -/

/-- A run of letters and digits is cut, and nothing of it is lost. -/
theorem flatten_humps (seen : Humps) (word cs : List Char) :
    (humps seen word cs).flatten = word.reverse ++ cs := by
  fun_induction humps seen word cs with
  | case1 seen word hempty => rw [List.isEmpty_iff.1 hempty]; rfl
  | case2 seen word _ => simp
  | case3 seen word c => simp
  | case4 seen word c next rest _ ih => simp [ih]
  | case5 seen word c next rest _ _ ih => simp [ih]
  | case6 seen word c next rest _ _ ih => simp [ih]

theorem flatten_words (cs : List Char) : (words cs).flatten = cs.filter isAlphanumeric := by
  have hruns : ∀ runs : List (List Char),
      (runs.flatMap (humps .boundary [])).flatten = runs.flatten := by
    intro runs
    induction runs with
    | nil => rfl
    | cons run runs ih => rw [List.flatMap_cons, List.flatten_append, flatten_humps, ih]; rfl
  rw [words, hruns, flatten_fields]
  simp only [Bool.not_not]

/-- Which separators a text is cut at makes no difference to its fields. -/
theorem fields_map {isSeparator : Char → Bool} {f : Char → Char}
    (hseparator : ∀ c, isSeparator c = true → isSeparator (f c) = true)
    (hother : ∀ c, isSeparator c = false → f c = c) (cs : List Char) :
    fields isSeparator (cs.map f) = fields isSeparator cs := by
  induction cs with
  | nil => rfl
  | cons c cs ih =>
      rw [List.map_cons, fields, fields, ih]
      cases hc : isSeparator c with
      | true => rw [hseparator c hc, if_pos rfl, if_pos rfl]
      | false => rw [hother c hc, hc]

theorem map_eq_self {α : Type} {f : α → α} {items : List α} (h : ∀ item ∈ items, f item = item) :
    items.map f = items := by
  calc items.map f
      _ = items.map id := List.map_congr_left h
      _ = items := List.map_id items

theorem lowerWord_of_ascii {cs : List Char} (h : ∀ c ∈ cs, c.toNat < 0x80) :
    lowerWord cs = cs.map Char.toLower := by
  induction cs with
  | nil => rfl
  | cons c cs ih =>
      obtain ⟨hc, hcs⟩ := List.forall_mem_cons.1 h
      have hlower : lowerOf c = [c.toLower] := by rw [lowerOf, if_pos hc]
      have hsigma : c ≠ 'Σ' := by
        rintro rfl
        exact absurd hc (by decide)
      rw [lowerWord, hlower, ih hcs]
      · rfl
      · rintro rfl -
        exact hsigma rfl

theorem mem_intercalate {separator : List Char} {texts : List (List Char)} {c : Char}
    (h : c ∈ List.intercalate separator texts) : c ∈ separator ∨ ∃ text ∈ texts, c ∈ text := by
  induction texts with
  | nil => cases h
  | cons first rest ih =>
      cases rest with
      | nil => exact .inr ⟨first, List.mem_cons_self, by simpa using h⟩
      | cons second rest =>
          rw [List.intercalate_cons_cons, List.mem_append, List.mem_append] at h
          rcases h with (hfirst | hseparator) | hrest
          · exact .inr ⟨first, List.mem_cons_self, hfirst⟩
          · exact .inl hseparator
          · rcases ih hrest with hseparator | ⟨text, htext, hmem⟩
            · exact .inl hseparator
            · exact .inr ⟨text, List.mem_cons_of_mem first htext, hmem⟩

/-- Small ASCII letters, digits and the hyphen. -/
def isStemPart (c : Char) : Bool :=
  c.isLower || c.isDigit || c = '-'

/-- A property of all ASCII characters can be checked one by one. -/
theorem forall_ascii {P : Char → Prop} (h : ∀ n : Fin 0x80, P (Char.ofNat n)) {c : Char}
    (hc : c.toNat < 0x80) : P c := by
  have hfound := h ⟨c.toNat, hc⟩
  rwa [Char.ofNat_toNat] at hfound

theorem isStemPart_toLower {c : Char} (hc : c.toNat < 0x80) (h : isAlphanumeric c = true) :
    isStemPart c.toLower = true := by
  rw [isAlphanumeric_of_ascii hc] at h
  exact forall_ascii (P := fun c => isAsciiAlphanumeric c = true → isStemPart c.toLower = true)
    (by decide +kernel) hc h

/-- What stands in a word stands in the text, and is a letter or a digit. -/
theorem mem_of_mem_words {cs word : List Char} (hword : word ∈ words cs) {c : Char}
    (hc : c ∈ word) : c ∈ cs ∧ isAlphanumeric c = true := by
  have hflat : c ∈ (words cs).flatten := List.mem_flatten.2 ⟨word, hword, hc⟩
  rw [flatten_words, List.mem_filter] at hflat
  exact hflat

/-- Of ASCII text only small letters, digits and hyphens are left. -/
theorem isStemPart_of_mem_kebabCase {cs : List Char} (hascii : ∀ c ∈ cs, c.toNat < 0x80)
    {c : Char} (h : c ∈ kebabCase cs) : isStemPart c = true := by
  rcases mem_intercalate h with hhyphen | ⟨text, htext, hc⟩
  · rw [List.mem_singleton.1 hhyphen]
    rfl
  · obtain ⟨word, hword, rfl⟩ := List.mem_map.1 htext
    rw [lowerWord_of_ascii fun d hd => hascii d (mem_of_mem_words hword hd).1] at hc
    obtain ⟨d, hd, rfl⟩ := List.mem_map.1 hc
    have hfound := mem_of_mem_words hword hd
    exact isStemPart_toLower (hascii d hfound.1) hfound.2

end Text

/-! ## Identifiers -/

theorem isNamePart_of_isNameStart {c : Char} (h : isNameStart c = true) : isNamePart c = true := by
  rw [isNameStart, Bool.or_eq_true] at h
  rw [isNamePart, Bool.or_eq_true, Bool.or_eq_true]
  exact h.imp_left .inl

/-- The code points of letters, digits and the underscore. -/
theorem range_of_isNamePart {c : Char} (h : isNamePart c = true) :
    ((65 ≤ c.toNat ∧ c.toNat ≤ 90 ∨ 97 ≤ c.toNat ∧ c.toNat ≤ 122) ∨
      48 ≤ c.toNat ∧ c.toNat ≤ 57) ∨ c = '_' := by
  change (decide (65 ≤ c.val ∧ c.val ≤ 90) || decide (97 ≤ c.val) && decide (c.val ≤ 122) ||
    decide (48 ≤ c.val) && decide (c.val ≤ 57) || decide (c = '_')) = true at h
  simp only [Bool.or_eq_true, Bool.and_eq_true, decide_eq_true_eq, UInt32.le_iff_toNat_le] at h
  exact h

theorem lt_of_isNamePart {c : Char} (h : isNamePart c = true) : c.toNat < 0x80 := by
  rcases range_of_isNamePart h with hrange | rfl
  · omega
  · decide

theorem isNamePart_of_mem_field {name : String} (h : isIdentifier name = true) {field : List Char}
    (hfield : field ∈ Text.fields (· = '.') name.toList) {c : Char} (hc : c ∈ field) :
    isNamePart c = true := by
  have hsimple : isSimpleName field = true := List.all_eq_true.1 h field hfield
  cases field with
  | nil => cases hc
  | cons first rest =>
      rw [isSimpleName, Bool.and_eq_true] at hsimple
      rcases List.mem_cons.1 hc with rfl | hrest
      · exact isNamePart_of_isNameStart hsimple.1
      · exact List.all_eq_true.1 hsimple.2 c hrest

/-- Between its points an identifier has parts of names only. -/
theorem isNamePart_of_isIdentifier {name : String} (h : isIdentifier name = true) {c : Char}
    (hc : c ∈ name.toList) (hpoint : c ≠ '.') : isNamePart c = true := by
  have hflat : c ∈ (Text.fields (· = '.') name.toList).flatten := by
    rw [Text.flatten_fields, List.mem_filter]
    exact ⟨hc, by simpa using hpoint⟩
  obtain ⟨field, hfield, hmem⟩ := List.mem_flatten.1 hflat
  exact isNamePart_of_mem_field h hfield hmem

theorem unqualified_mem_fields (cs : List Char) : unqualified cs ∈ Text.fields (· = '.') cs := by
  have hlast := List.getLast?_eq_some_getLast (Text.fields_ne_nil (· = '.') cs)
  rw [unqualified, hlast]
  exact List.getLast_mem _

/-- A point cuts words just as the underscore does that stands for it in file names. -/
theorem Naming.kebab_eq_fileStem (naming : Naming) (table : String) :
    naming.apply table .kebab = fileStem table := by
  have hwords : Text.words (table.toList.map fun c => if c = '.' then '_' else c) =
      Text.words table.toList := by
    rw [Text.words, Text.words, Text.fields_map]
    · intro c hc
      split
      · decide
      · exact hc
    · intro c hc
      rw [if_neg]
      rintro rfl
      exact absurd hc (by decide)
  rw [apply, fileStem, Text.kebabCase, Text.kebabCase, hwords]

theorem Naming.isStemPart_of_mem_fileStem {table : String} (h : isIdentifier table = true)
    {c : Char} (hc : c ∈ (fileStem table).toList) : Text.isStemPart c = true := by
  rw [fileStem, String.toList_ofList] at hc
  refine Text.isStemPart_of_mem_kebabCase ?_ hc
  intro d hd
  obtain ⟨e, he, rfl⟩ := List.mem_map.1 hd
  by_cases hpoint : e = '.'
  · rw [if_pos hpoint]
    decide
  · rw [if_neg hpoint]
    exact lt_of_isNamePart (isNamePart_of_isIdentifier h he hpoint)

end Scaffold
