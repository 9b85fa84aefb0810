import Scaffold.Proofs.Template.Lexemes
import Scaffold.Proofs.Text.Cutting
import Scaffold.Template.Printer

/-!
# Tags are read back

What stands between the brackets of a sound tag tells the tag, and holds neither a line feed nor a
closing bracket.
-/

namespace Scaffold.Template

/-! ## Names -/

def isTokenChar (c : Char) : Bool :=
  c.isAlpha || c.isDigit || c = '_' || c = '.'

theorem isTokenName_iff {name : List Char} :
    isTokenName name = true ↔ name ≠ [] ∧ ∀ c ∈ name, isTokenChar c = true := by
  simp [isTokenName, isTokenChar]

theorem ne_of_isTokenChar {c d : Char} (hc : isTokenChar c = true) (hd : isTokenChar d = false) :
    c ≠ d := by
  rintro rfl
  rw [hd] at hc
  cases hc

theorem toNat_of_isTokenChar {c : Char} (h : isTokenChar c = true) :
    0x2E ≤ c.toNat ∧ c.toNat ≤ 0x7A := by
  rw [isTokenChar, Bool.or_eq_true, Bool.or_eq_true, Bool.or_eq_true, decide_eq_true_eq,
    decide_eq_true_eq] at h
  rcases h with ((halpha | hdigit) | rfl) | rfl
  · rcases Bool.or_eq_true_iff.1 halpha with hupper | hlower
    · have hbounds : 'A'.toNat ≤ c.toNat ∧ c.toNat ≤ 'Z'.toNat := of_decide_eq_true hupper
      exact ⟨Nat.le_trans (by decide) hbounds.1, Nat.le_trans hbounds.2 (by decide)⟩
    · have hbounds := Bool.and_eq_true_iff.1 hlower
      have hlow : 'a'.toNat ≤ c.toNat := of_decide_eq_true hbounds.1
      have hhigh : c.toNat ≤ 'z'.toNat := of_decide_eq_true hbounds.2
      exact ⟨Nat.le_trans (by decide) hlow, Nat.le_trans hhigh (by decide)⟩
  · have hbounds := Char.isDigit_iff_toNat.1 hdigit
    exact ⟨Nat.le_trans (by decide) hbounds.1, Nat.le_trans hbounds.2 (by decide)⟩
  · decide
  · decide

theorem isBlank_of_isTokenChar {c : Char} (h : isTokenChar c = true) : Text.isBlank c = false := by
  have hcode := toNat_of_isTokenChar h
  simp only [Text.isBlank, Bool.or_eq_false_iff, Bool.and_eq_false_imp, decide_eq_true_eq,
    decide_eq_false_iff_not, beq_eq_false_iff_ne]
  omega

theorem not_mem_of_isTokenName {name : List Char} {d : Char} (hname : isTokenName name = true)
    (hd : isTokenChar d = false) : d ∉ name := by
  intro hmem
  exact ne_of_isTokenChar ((isTokenName_iff.1 hname).2 d hmem) hd rfl

theorem append_ne_cons_of_isTokenName {name : List Char} {d : Char}
    (hname : isTokenName name = true) (hd : isTokenChar d = false) (rest cs : List Char) :
    name ++ rest ≠ d :: cs := by
  intro heq
  have hnot : d ∉ name := not_mem_of_isTokenName hname hd
  cases name with
  | nil => exact (isTokenName_iff.1 hname).1 rfl
  | cons c name =>
      rw [List.cons_append, List.cons_eq_cons] at heq
      rw [heq.1] at hnot
      exact hnot List.mem_cons_self

theorem tokenName?_eq_some {name : String} (hname : isTokenName name.toList = true) :
    tokenName? name.toList = some name := by
  have htrim : Text.trimChars name.toList = name.toList :=
    Text.trimChars_of_clean fun c hc => isBlank_of_isTokenChar ((isTokenName_iff.1 hname).2 c hc)
  simp only [tokenName?, htrim, if_pos hname, String.ofList_toList]

theorem mapM_tokenName? {names : List String}
    (hnames : ∀ name ∈ names, isTokenName name.toList = true) :
    (names.map String.toList).mapM tokenName? = some names := by
  induction names with
  | nil => rfl
  | cons name names ih =>
      rw [List.map_cons, List.mapM_cons, tokenName?_eq_some (hnames name List.mem_cons_self),
        ih fun other hother => hnames other (List.mem_cons_of_mem name hother)]
      rfl

/-! ## Separators -/

theorem mem_escapeChar {c d : Char} (h : d ∈ escapeChar c) :
    d ≠ '\n' ∧ (d = c ∨ d = 'n' ∨ d = 't' ∨ d = '\\') := by
  rw [escapeChar] at h
  split at h
  · simp only [List.mem_cons, List.not_mem_nil, or_false] at h
    rcases h with rfl | rfl <;> simp
  · split at h
    · simp only [List.mem_cons, List.not_mem_nil, or_false] at h
      rcases h with rfl | rfl <;> simp
    · split at h
      · simp only [List.mem_cons, List.not_mem_nil, or_false, or_self] at h
        simp [h]
      · next hfeed _ _ =>
          rw [List.mem_singleton.1 h]
          exact ⟨hfeed, .inl rfl⟩

theorem feed_not_mem_escapeSeparator (cs : List Char) : '\n' ∉ escapeSeparator cs := by
  rw [escapeSeparator, List.mem_flatMap]
  rintro ⟨c, -, hmem⟩
  exact (mem_escapeChar hmem).1 rfl

theorem bracket_not_mem_escapeSeparator {cs : List Char} (h : ']' ∉ cs) :
    ']' ∉ escapeSeparator cs := by
  rw [escapeSeparator, List.mem_flatMap]
  rintro ⟨c, hc, hmem⟩
  rcases (mem_escapeChar hmem).2 with rfl | hd | hd | hd
  · exact h hc
  all_goals exact absurd hd (by decide)

/-! ## Between the brackets -/

namespace Tag

/-- Whether a tag has three brackets on each side. -/
def isList : Tag → Bool
  | .opens (.list _) _ => true
  | .closes (.list _) => true
  | _ => false

/-- What stands between the brackets. -/
def inner : Tag → List Char
  | .scalar name filters => (Text.join "|" (name :: filters)).toList
  | .opens (.list sequence) separator =>
      sequence.toList ++ '|' :: escapeSeparator separator.toList
  | .opens (.conditional predicate true) _ => '?' :: '!' :: predicate.toList
  | .opens (.conditional predicate false) _ => '?' :: predicate.toList
  | .closes (.list sequence) => '/' :: sequence.toList
  | .closes (.conditional predicate true) => '/' :: '?' :: '!' :: predicate.toList
  | .closes (.conditional predicate false) => '/' :: '?' :: predicate.toList

/-- The brackets on each side. -/
def brackets (tag : Tag) : Brackets :=
  if tag.isList then .list else .plain

/-- A tag is written as what it encloses. -/
theorem source_eq (tag : Tag) : tag.source = (Lexeme.enclosed tag.brackets tag.inner).source := by
  match tag with
  | .scalar name filters => rfl
  | .opens (.list sequence) separator =>
      simp [source, inner, brackets, isList, Lexeme.source, Brackets.opening, Brackets.closing]
  | .opens (.conditional predicate negated) separator =>
      cases negated <;>
        simp [source, inner, brackets, isList, Lexeme.source, Brackets.opening, Brackets.closing,
          Block.opening]
  | .closes (.list sequence) =>
      simp [source, inner, brackets, isList, Lexeme.source, Brackets.opening, Brackets.closing,
        Block.closing]
  | .closes (.conditional predicate negated) =>
      cases negated <;>
        simp [source, inner, brackets, isList, Lexeme.source, Brackets.opening, Brackets.closing,
          Block.closing]

theorem head?_source (tag : Tag) : tag.source.head? = some '[' := by
  rw [source_eq, Lexeme.source]
  cases tag.brackets <;> rfl

theorem getLast?_source (tag : Tag) : tag.source.getLast? = some ']' := by
  rw [source_eq, Lexeme.getLast?_enclosed]

/-- No line ends inside a sound tag, and it does not look closed before its end. -/
theorem not_mem_inner {tag : Tag} (hsound : tag.isSound = true) {d : Char}
    (hd : d = '\n' ∨ d = ']') : d ∉ tag.inner := by
  have hname : ∀ {name : String}, isTokenName name.toList = true → d ∉ name.toList := by
    intro name hname
    rcases hd with rfl | rfl <;> exact not_mem_of_isTokenName hname (by decide)
  have hmark : d ≠ '/' ∧ d ≠ '?' ∧ d ≠ '!' ∧ d ≠ '|' := by
    rcases hd with rfl | rfl <;> decide
  match tag with
  | .scalar name filters =>
      intro hmem
      rcases Text.mem_join hmem with hbar | ⟨token, htoken, hmem⟩
      · exact hmark.2.2.2 (by simpa using hbar)
      · exact hname (List.all_eq_true.1 hsound token htoken) hmem
  | .opens (.list sequence) separator =>
      rw [isSound, Bool.and_eq_true, Bool.not_eq_true', List.contains_eq_mem,
        decide_eq_false_iff_not] at hsound
      rw [inner, List.mem_append, List.mem_cons, not_or, not_or]
      refine ⟨hname hsound.1, hmark.2.2.2, ?_⟩
      rcases hd with rfl | rfl
      · exact feed_not_mem_escapeSeparator _
      · exact bracket_not_mem_escapeSeparator hsound.2
  | .opens (.conditional predicate negated) separator =>
      rw [isSound, Bool.and_eq_true] at hsound
      cases negated <;> simp [inner, hmark, hname hsound.1]
  | .closes (.list sequence) =>
      have hnot : d ∉ sequence.toList := hname hsound
      simp [inner, hmark, hnot]
  | .closes (.conditional predicate negated) =>
      have hnot : d ∉ predicate.toList := hname hsound
      cases negated <;> simp [inner, hmark, hnot]

theorem feed_not_mem_source {tag : Tag} (hsound : tag.isSound = true) : '\n' ∉ tag.source := by
  have hinner : '\n' ∉ tag.inner := not_mem_inner hsound (.inl rfl)
  rw [source_eq, Lexeme.source]
  cases tag.brackets <;> simp [Brackets.opening, Brackets.closing, hinner]

theorem inner_scalar_ne {name : String} {filters : List String}
    (hsound : (scalar name filters).isSound = true) {d : Char} (hd : isTokenChar d = false)
    (cs : List Char) : (scalar name filters).inner ≠ d :: cs := by
  have hname : isTokenName name.toList = true :=
    List.all_eq_true.1 hsound name List.mem_cons_self
  obtain ⟨back, hback⟩ := Text.exists_toList_join "|" name filters
  rw [inner, hback]
  exact append_ne_cons_of_isTokenName hname hd back cs

theorem inner_ne_bracket {tag : Tag} (hsound : tag.isSound = true) (hplain : tag.isList = false)
    (cs : List Char) : tag.inner ≠ '[' :: cs := by
  match tag with
  | .scalar name filters => exact inner_scalar_ne hsound (by decide) cs
  | .opens (.conditional predicate negated) separator => cases negated <;> simp [inner]
  | .closes (.conditional predicate negated) => cases negated <;> simp [inner]

theorem listTag?_inner {tag : Tag} (hsound : tag.isSound = true) (hlist : tag.isList = true) :
    listTag? tag.inner = some tag := by
  match tag with
  | .opens (.list sequence) separator =>
      rw [isSound, Bool.and_eq_true] at hsound
      have hcut : Text.cut '|' (sequence.toList ++ '|' :: escapeSeparator separator.toList) =
          some (sequence.toList, escapeSeparator separator.toList) :=
        Text.cut_eq_some_iff.2 ⟨rfl, not_mem_of_isTokenName hsound.1 (by decide)⟩
      rw [inner, listTag?]
      · simp only [hcut, Option.getD_some, tokenName?_eq_some hsound.1, Option.map_some,
          unescape_escapeSeparator, String.ofList_toList]
      · exact append_ne_cons_of_isTokenName hsound.1 (by decide) _
  | .closes (.list sequence) =>
      have hname : isTokenName sequence.toList = true := hsound
      rw [inner, listTag?, tokenName?_eq_some hname, Option.map_some]

theorem plainTag?_inner {tag : Tag} (hsound : tag.isSound = true) (hplain : tag.isList = false) :
    plainTag? tag.inner = some tag := by
  have hunmarked : ∀ {name : String}, isTokenName name.toList = true →
      ∀ cs, name.toList ≠ '!' :: cs := by
    intro name hname cs
    rw [← List.append_nil name.toList]
    exact append_ne_cons_of_isTokenName hname (by decide) [] cs
  match tag with
  | .scalar name filters =>
      have hnames : ∀ token ∈ name :: filters, isTokenName token.toList = true :=
        List.all_eq_true.1 hsound
      have hfields : Text.fields (· = '|') (Text.join "|" (name :: filters)).toList =
          (name :: filters).map String.toList :=
        Text.fields_join rfl fun token htoken =>
          not_mem_of_isTokenName (hnames token htoken) (by decide)
      rw [plainTag?]
      · rw [scalarTag?, inner, hfields, mapM_tokenName? hnames]
      · exact fun cs => inner_scalar_ne hsound (by decide) _
      · exact fun cs => inner_scalar_ne hsound (by decide) _
      · exact fun cs => inner_scalar_ne hsound (by decide) _
      · exact inner_scalar_ne hsound (by decide)
  | .opens (.conditional predicate true) separator =>
      rw [isSound, Bool.and_eq_true, decide_eq_true_eq] at hsound
      rw [inner, plainTag?, tokenName?_eq_some hsound.1, Option.map_some, hsound.2]
  | .opens (.conditional predicate false) separator =>
      rw [isSound, Bool.and_eq_true, decide_eq_true_eq] at hsound
      rw [inner, plainTag?, tokenName?_eq_some hsound.1, Option.map_some, hsound.2]
      exact hunmarked hsound.1
  | .closes (.conditional predicate true) =>
      have hname : isTokenName predicate.toList = true := hsound
      rw [inner, plainTag?, tokenName?_eq_some hname, Option.map_some]
  | .closes (.conditional predicate false) =>
      have hname : isTokenName predicate.toList = true := hsound
      rw [inner, plainTag?, tokenName?_eq_some hname, Option.map_some]
      exact hunmarked hname

/-- What stands between the brackets of a sound tag is read as the tag. -/
theorem read_inner {tag : Tag} (hsound : tag.isSound = true) :
    tag.brackets.read tag.inner = some tag := by
  rw [brackets]
  cases hlist : tag.isList with
  | true => exact listTag?_inner hsound hlist
  | false => exact plainTag?_inner hsound hlist

theorem opens_inner {tag : Tag} (hsound : tag.isSound = true) :
    tag.brackets.Opens tag.inner := by
  intro hplain
  refine inner_ne_bracket hsound (Bool.eq_false_iff.2 fun hlist => ?_)
  rw [brackets, if_pos hlist] at hplain
  cases hplain

end Tag

end Scaffold.Template
