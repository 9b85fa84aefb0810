import Scaffold.Decimal.Layout
import Scaffold.Proofs.Naming.FileStem
import Scaffold.Proofs.Text.Cutting
import Scaffold.Template.Stretch

/-!
# Plain texts

A text is plain if it can stand between any quotes on one line: ASCII, with no quote and no line
feed.  Identifiers, names of modules and numbers are plain, and so is what the filters of templates
make of plain texts.
-/

namespace Scaffold

namespace Text

/-- ASCII but for quotes and the line feed. -/
def isPlainChar (c : Char) : Bool :=
  c.toNat < 0x80 && c.toNat != 0x0A && !Template.isQuote c

def isPlain (text : String) : Bool :=
  text.toList.all isPlainChar

theorem isPlain_iff {text : String} :
    isPlain text = true ↔ ∀ c ∈ text.toList, isPlainChar c = true :=
  List.all_eq_true

theorem isPlain_ofList {cs : List Char} (h : ∀ c ∈ cs, isPlainChar c = true) :
    isPlain (String.ofList cs) = true := by
  rw [isPlain_iff, String.toList_ofList]
  exact h

theorem isPlain_append {front back : String} (hfront : isPlain front = true)
    (hback : isPlain back = true) : isPlain (front ++ back) = true := by
  rw [isPlain, String.toList_append, List.all_append, Bool.and_eq_true]
  exact ⟨hfront, hback⟩

theorem isPlain_join {separator : String} {texts : List String}
    (hseparator : isPlain separator = true) (htexts : ∀ text ∈ texts, isPlain text = true) :
    isPlain (join separator texts) = true := by
  rw [isPlain_iff]
  intro c hc
  rcases mem_join hc with hmem | ⟨text, htext, hmem⟩
  · exact isPlain_iff.1 hseparator c hmem
  · exact isPlain_iff.1 (htexts text htext) c hmem

theorem lt_of_isPlainChar {c : Char} (h : isPlainChar c = true) : c.toNat < 0x80 := by
  rw [isPlainChar, Bool.and_eq_true, Bool.and_eq_true, decide_eq_true_eq] at h
  exact h.1.1

theorem lt_of_isPlain {text : String} (h : isPlain text = true) :
    ∀ c ∈ text.toList, c.toNat < 0x80 := fun c hc =>
  lt_of_isPlainChar (isPlain_iff.1 h c hc)

/-- A plain text can stand anywhere. -/
theorem isConfined_of_isPlain {text : String} (h : isPlain text = true) {quote : Option Char}
    (hquote : ∀ opening ∈ quote, Template.isQuote opening = true) :
    Template.IsConfined quote text := by
  refine ⟨fun hfeed => ?_, fun opening hopening hmem => ?_⟩
  · exact absurd (isPlain_iff.1 h '\n' hfeed) (by decide)
  · have hplain := isPlain_iff.1 h opening hmem
    rw [isPlainChar, hquote opening hopening, Bool.not_true, Bool.and_false] at hplain
    cases hplain

/-! ## Characters -/

/-- Letters, digits, and the marks that names and numbers are made with. -/
theorem isPlainChar_of_range {c : Char}
    (h : (65 ≤ c.toNat ∧ c.toNat ≤ 90) ∨ (97 ≤ c.toNat ∧ c.toNat ≤ 122) ∨
      (45 ≤ c.toNat ∧ c.toNat ≤ 57) ∨ c.toNat = 95 ∨ c.toNat = 32) :
    isPlainChar c = true := by
  have hapostrophe : c ≠ '\'' := by
    rintro rfl
    revert h
    decide
  have hdouble : c ≠ '"' := by
    rintro rfl
    revert h
    decide
  simp only [isPlainChar, Template.isQuote, hapostrophe, hdouble, decide_false, Bool.false_or,
    Bool.and_eq_true, decide_eq_true_eq, bne_iff_ne, Bool.not_eq_true', decide_eq_false_iff_not]
  omega

theorem isPlainChar_of_isNamePart {c : Char} (h : isNamePart c = true) : isPlainChar c = true := by
  refine isPlainChar_of_range ?_
  rcases range_of_isNamePart h with (hletter | hdigit) | rfl
  · omega
  · omega
  · decide

theorem isPlainChar_of_isLower {c : Char} (h : c.isLower = true) : isPlainChar c = true := by
  refine isPlainChar_of_isNamePart ?_
  have halpha : c.isAlpha = true := by
    change (c.isUpper || c.isLower) = true
    rw [h, Bool.or_true]
  rw [isNamePart, halpha, Bool.true_or, Bool.true_or]

theorem isPlainChar_of_isDigit {c : Char} (h : c.isDigit = true) : isPlainChar c = true := by
  refine isPlainChar_of_isNamePart ?_
  rw [isNamePart, h, Bool.or_true, Bool.true_or]

theorem isPlainChar_of_isStemPart {c : Char} (h : isStemPart c = true) : isPlainChar c = true := by
  rw [isStemPart, Bool.or_eq_true, Bool.or_eq_true, decide_eq_true_eq] at h
  rcases h with (hlower | hdigit) | rfl
  · exact isPlainChar_of_isLower hlower
  · exact isPlainChar_of_isDigit hdigit
  · decide

/-! ## Names -/

theorem isPlain_of_isIdentifier {name : String} (h : isIdentifier name = true) :
    isPlain name = true := by
  rw [isPlain_iff]
  intro c hc
  by_cases hpoint : c = '.'
  · rw [hpoint]
    decide
  · exact isPlainChar_of_isNamePart (isNamePart_of_isIdentifier h hc hpoint)

theorem isPlain_of_isModuleName {name : String} (h : isModuleName name = true) :
    isPlain name = true := by
  rw [isModuleName, Bool.and_eq_true, List.all_eq_true] at h
  rw [isPlain_iff]
  intro c hc
  have hpart := h.2 c hc
  rw [Bool.or_eq_true, decide_eq_true_eq] at hpart
  rcases hpart with hname | rfl
  · exact isPlainChar_of_isNamePart hname
  · decide

theorem isPlain_of_isModuleUrl {url : String} (h : isModuleUrl url = true) :
    isPlain url = true := by
  rw [isPlain_iff]
  intro c hc
  by_cases hslash : c = '/'
  · rw [hslash]
    decide
  · have hflat : c ∈ (fields (· = '/') url.toList).flatten := by
      rw [flatten_fields, List.mem_filter]
      exact ⟨hc, by simpa using hslash⟩
    obtain ⟨segment, hsegment, hmem⟩ := List.mem_flatten.1 hflat
    have hurl : isUrlSegment segment = true := List.all_eq_true.1 h segment hsegment
    rw [isUrlSegment, Bool.and_eq_true, List.all_eq_true] at hurl
    have hpart := hurl.2 c hmem
    rw [Bool.or_eq_true, Bool.or_eq_true, Bool.or_eq_true, decide_eq_true_eq,
      decide_eq_true_eq] at hpart
    rcases hpart with ((hlower | hdigit) | rfl) | rfl
    · exact isPlainChar_of_isLower hlower
    · exact isPlainChar_of_isDigit hdigit
    · decide
    · decide

theorem isPlain_fileStem {table : String} (h : isIdentifier table = true) :
    isPlain (Naming.fileStem table) = true :=
  isPlain_iff.2 fun _ hc => isPlainChar_of_isStemPart (Naming.isStemPart_of_mem_fileStem h hc)

/-! ## Words -/

/-- The ASCII letters and digits are plain in either case. -/
theorem isPlainChar_case {c : Char} (hc : c.toNat < 0x80) (h : isAlphanumeric c = true) :
    isPlainChar c.toLower = true ∧ isPlainChar c.toUpper = true := by
  rw [isAlphanumeric_of_ascii hc] at h
  exact forall_ascii (P := fun c => isAsciiAlphanumeric c = true →
    isPlainChar c.toLower = true ∧ isPlainChar c.toUpper = true) (by decide +kernel) hc h

variable {cs word : List Char} {c : Char}

theorem isPlainChar_of_mem_lowerWord (hascii : ∀ d ∈ word, d.toNat < 0x80)
    (hword : ∀ d ∈ word, isAlphanumeric d = true) (h : c ∈ lowerWord word) :
    isPlainChar c = true := by
  rw [lowerWord_of_ascii hascii] at h
  obtain ⟨d, hd, rfl⟩ := List.mem_map.1 h
  exact (isPlainChar_case (hascii d hd) (hword d hd)).1

theorem isPlainChar_of_mem_capitalized (hascii : ∀ d ∈ word, d.toNat < 0x80)
    (hword : ∀ d ∈ word, isAlphanumeric d = true) (h : c ∈ capitalized word) :
    isPlainChar c = true := by
  cases word with
  | nil => cases h
  | cons first rest =>
      obtain ⟨hfirst, hrest⟩ := List.forall_mem_cons.1 hascii
      obtain ⟨hletter, hletters⟩ := List.forall_mem_cons.1 hword
      rw [capitalized, upperOf, if_pos hfirst, List.mem_append, List.mem_singleton] at h
      rcases h with rfl | hmem
      · exact (isPlainChar_case hfirst hletter).2
      · exact isPlainChar_of_mem_lowerWord hrest hletters hmem

/-- What is made of the words of an ASCII text, word by word. -/
theorem isPlainChar_of_mem_words {style : List Char → List Char}
    (hstyle : ∀ word : List Char, (∀ d ∈ word, d.toNat < 0x80) →
      (∀ d ∈ word, isAlphanumeric d = true) → ∀ c ∈ style word, isPlainChar c = true)
    (hascii : ∀ d ∈ cs, d.toNat < 0x80) :
    ∀ text ∈ (words cs).map style, ∀ c ∈ text, isPlainChar c = true := by
  intro text htext
  obtain ⟨word, hword, rfl⟩ := List.mem_map.1 htext
  exact hstyle word (fun d hd => hascii d (mem_of_mem_words hword hd).1)
    fun d hd => (mem_of_mem_words hword hd).2

theorem isPlainChar_of_mem_kebabCase (hascii : ∀ d ∈ cs, d.toNat < 0x80)
    (h : c ∈ kebabCase cs) : isPlainChar c = true :=
  isPlainChar_of_isStemPart (isStemPart_of_mem_kebabCase hascii h)

theorem isPlainChar_of_mem_titleCase (hascii : ∀ d ∈ cs, d.toNat < 0x80)
    (h : c ∈ titleCase cs) : isPlainChar c = true := by
  rcases mem_intercalate h with hspace | ⟨text, htext, hc⟩
  · rw [List.mem_singleton.1 hspace]
    decide
  · exact isPlainChar_of_mem_words
      (fun _ hascii hword _ => isPlainChar_of_mem_capitalized hascii hword) hascii text htext c hc

theorem isPlainChar_of_mem_pascalCase (hascii : ∀ d ∈ cs, d.toNat < 0x80)
    (h : c ∈ pascalCase cs) : isPlainChar c = true := by
  rw [pascalCase, List.flatMap_def, List.mem_flatten] at h
  obtain ⟨text, htext, hc⟩ := h
  exact isPlainChar_of_mem_words
    (fun _ hascii hword _ => isPlainChar_of_mem_capitalized hascii hword) hascii text htext c hc

end Text

/-! ## Filters -/

theorem mem_of_mem_unqualified {cs : List Char} {c : Char} (h : c ∈ unqualified cs) : c ∈ cs := by
  have hflat : c ∈ (Text.fields (· = '.') cs).flatten :=
    List.mem_flatten.2 ⟨unqualified cs, unqualified_mem_fields cs, h⟩
  rw [Text.flatten_fields] at hflat
  exact (List.mem_filter.1 hflat).1

theorem Text.mem_of_mem_dropEnd? {ending cs stem : List Char}
    (h : Text.dropEnd? ending cs = some stem) {c : Char} (hc : c ∈ stem) : c ∈ cs := by
  rw [Text.dropEnd?_eq_some_iff.1 h]
  exact List.mem_append_left ending hc

theorem mem_of_mem_singularChars {cs : List Char} {c : Char} (h : c ∈ singularChars cs) :
    c ∈ cs ∨ c = 'y' := by
  rw [singularChars] at h
  split at h
  · next hstem =>
      rcases List.mem_append.1 h with hmem | hmem
      · exact .inl (Text.mem_of_mem_dropEnd? hstem hmem)
      · exact .inr (List.mem_singleton.1 hmem)
  · split at h
    · next hstem =>
        split at h
        · exact .inl h
        · exact .inl (Text.mem_of_mem_dropEnd? hstem h)
    · exact .inl h

theorem lt_of_mem_singularChars {cs : List Char} (h : ∀ c ∈ cs, c.toNat < 0x80) :
    ∀ c ∈ singularChars cs, c.toNat < 0x80 := by
  intro c hc
  rcases mem_of_mem_singularChars hc with hmem | rfl
  · exact h c hmem
  · decide

namespace Naming

variable {value : String}

theorem isPlain_className (naming : Naming) (h : Text.isPlain value = true) :
    Text.isPlain (naming.className value) = true := by
  have hbase : ∀ c ∈ unqualified value.toList, c.toNat < 0x80 := fun c hc =>
    Text.lt_of_isPlain h c (mem_of_mem_unqualified hc)
  refine Text.isPlain_ofList fun c hc => Text.isPlainChar_of_mem_pascalCase (fun d hd => ?_) hc
  split at hd
  · exact lt_of_mem_singularChars hbase d hd
  · exact hbase d hd

theorem isPlain_label (h : Text.isPlain value = true) : Text.isPlain (label value) = true := by
  refine Text.isPlain_ofList fun c hc => Text.isPlainChar_of_mem_titleCase (fun d hd => ?_) hc
  exact Text.lt_of_isPlain h d (mem_of_mem_unqualified hd)

theorem isPlain_kebab (naming : Naming) (h : Text.isPlain value = true) :
    Text.isPlain (naming.apply value .kebab) = true := by
  refine Text.isPlain_ofList fun c hc => Text.isPlainChar_of_mem_kebabCase (fun d hd => ?_) hc
  exact Text.lt_of_isPlain h d hd

/-- The filters that are known to keep texts plain. -/
def plainFilters : List String := ["kebab", "label"]

theorem isPlain_of_applyNamed {naming : Naming} {text : String} {filters : List String}
    (hfilters : ∀ filter ∈ filters, filter ∈ plainFilters) (hvalue : Text.isPlain value = true)
    (h : naming.applyNamed value filters = .ok text) : Text.isPlain text = true := by
  induction filters generalizing value with
  | nil =>
      cases h
      exact hvalue
  | cons filter filters ih =>
      obtain ⟨hfilter, hrest⟩ := List.forall_mem_cons.1 hfilters
      simp only [plainFilters, List.mem_cons, List.not_mem_nil, or_false] at hfilter
      have hkebab : Filter.ofName? "kebab" = some .kebab := by decide
      have hlabel : Filter.ofName? "label" = some .label := by decide
      rcases hfilter with rfl | rfl
      · rw [applyNamed, hkebab] at h
        exact ih hrest (naming.isPlain_kebab hvalue) h
      · rw [applyNamed, hlabel] at h
        exact ih hrest (isPlain_label hvalue) h

end Naming

/-! ## Numbers -/

theorem Text.isPlainChar_of_mem_toDigits {n : Nat} {c : Char} (h : c ∈ Nat.toDigits 10 n) :
    isPlainChar c = true :=
  isPlainChar_of_isDigit (Nat.isDigit_of_mem_toDigits (by decide) (by decide) h)

theorem Text.isPlain_natToString (n : Nat) : isPlain (toString n) = true := by
  rw [isPlain_iff, Nat.toString_eq_repr, Nat.toList_repr]
  exact fun _ => isPlainChar_of_mem_toDigits

namespace Decimal

theorem isPlainChar_of_mem_positionalChars {d : Decimal} {c : Char}
    (h : c ∈ d.positionalChars) : Text.isPlainChar c = true := by
  have hdigits : ∀ digit ∈ Nat.toDigits 10 d.digits, Text.isPlainChar digit = true :=
    fun _ => Text.isPlainChar_of_mem_toDigits
  have hzeros : ∀ (n : Nat), ∀ zero ∈ List.replicate n '0', Text.isPlainChar zero = true := by
    intro n zero hmem
    rw [List.eq_of_mem_replicate hmem]
    decide
  revert c
  change ∀ c ∈ (if d.negative then ['-'] else []) ++ _, _
  refine List.forall_mem_append.2 ⟨?sign, ?digits⟩
  case sign =>
    split
    · exact List.forall_mem_singleton.2 (by decide)
    · exact List.forall_mem_nil _
  case digits =>
    split
    · exact List.forall_mem_singleton.2 (by decide)
    · split
      · exact List.forall_mem_append.2 ⟨hdigits, hzeros _⟩
      · split
        · refine List.forall_mem_append.2 ⟨fun c hc => hdigits c (List.mem_of_mem_take hc), ?_⟩
          exact List.forall_mem_cons.2
            ⟨by decide, fun c hc => hdigits c (List.mem_of_mem_drop hc)⟩
        · refine List.forall_mem_append.2 ⟨?_, hdigits⟩
          exact List.forall_mem_cons.2
            ⟨by decide, List.forall_mem_cons.2 ⟨by decide, hzeros _⟩⟩

theorem isPlain_positional (x : Float) : Text.isPlain (positional x) = true := by
  rw [positional]
  split
  · decide
  · split
    · split <;> decide
    · exact Text.isPlain_ofList fun _ => isPlainChar_of_mem_positionalChars

end Decimal

end Scaffold
