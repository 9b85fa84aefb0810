import Scaffold.Proofs.Text.Lowering
import Scaffold.Proofs.Text.Trimming
import Scaffold.Schema.LogicalType

/-!
# Modifiers of types

A size in parentheses, ` unsigned`, white space around a type and the case of its letters say
nothing about its logical type.  The two types that hold one bit if their size says so are the ones
for which a size matters.
-/

namespace Scaffold.LogicalType

open Text (lowerChars trimChars)

variable {cs front back : List Char} {type : String}

/-! ## Sizes -/

/-- Where no parenthesis stands in front, the part before one goes on. -/
theorem beforeParenthesis_append (h : '(' ∉ front) (back : List Char) :
    beforeParenthesis (front ++ back) = front ++ beforeParenthesis back := by
  refine List.takeWhile_append_of_pos fun c hc => decide_eq_true ?_
  rintro rfl
  exact h hc

theorem beforeParenthesis_of_not_mem (h : '(' ∉ cs) : beforeParenthesis cs = cs := by
  have hwhole := beforeParenthesis_append h []
  rw [List.append_nil] at hwhole
  exact hwhole.trans (List.append_nil cs)

theorem beforeParenthesis_sized (h : '(' ∉ front) (back : List Char) :
    beforeParenthesis (front ++ '(' :: back) = front := by
  rw [beforeParenthesis_append h]
  exact List.append_nil front

/-- It does not matter whether white space goes before the size does. -/
theorem trimChars_beforeParenthesis_trimChars (cs : List Char) :
    trimChars (beforeParenthesis (trimChars cs)) = trimChars (beforeParenthesis cs) := by
  obtain ⟨front, back, hfront, hback, hcs⟩ := Text.exists_eq_append_trimChars cs
  have hfrontSize : '(' ∉ front := fun hmem => absurd (hfront _ hmem) (by decide)
  have hbackSize : '(' ∉ back := fun hmem => absurd (hback _ hmem) (by decide)
  generalize hcore : trimChars cs = core at hcs
  by_cases hsize : '(' ∈ core
  · obtain ⟨name, size, rfl, hname⟩ := List.eq_append_cons_of_mem hsize
    have hsurrounded := Text.trimChars_surrounded hfront (List.forall_mem_nil _) name
    rw [List.append_nil] at hsurrounded
    rw [beforeParenthesis_sized hname, hcs, beforeParenthesis_append hfrontSize,
      List.append_assoc, List.cons_append, beforeParenthesis_sized hname, hsurrounded]
  · have hnone : '(' ∉ cs := by
      rw [hcs, List.mem_append, List.mem_append]
      rintro (hmem | hmem | hmem)
      · exact hfrontSize hmem
      · exact hsize hmem
      · exact hbackSize hmem
    rw [beforeParenthesis_of_not_mem hsize, beforeParenthesis_of_not_mem hnone, hcore, ← hcore,
      (Text.trimmed_trimChars cs).trimChars_eq]

/-! ## Types -/

/-- The type of a text with its letters in lower case. -/
theorem ofDatabaseType_eq (type : String) :
    ofDatabaseType type =
      let cs := lowerChars type.toList
      if bitTypes.contains (String.ofList (trimChars cs)) then .boolean
      else ofBase (dropUnsigned (trimChars (beforeParenthesis cs))) := by
  unfold ofDatabaseType
  dsimp only
  rw [trimChars_beforeParenthesis_trimChars]

/-- Only what is left by trimming counts. -/
theorem ofDatabaseType_congr {other : String}
    (h : trimChars (lowerChars type.toList) = trimChars (lowerChars other.toList)) :
    ofDatabaseType type = ofDatabaseType other := by
  unfold ofDatabaseType
  rw [h]

theorem trim_toLower (type : String) :
    Text.trim (Text.toLower type) = String.ofList (trimChars (lowerChars type.toList)) := by
  rw [Text.trim, Text.toLower, String.toList_ofList]

theorem not_mem_lowerChars (h : '(' ∉ cs) : '(' ∉ lowerChars cs := fun hmem =>
  (Text.mem_or_of_mem_lowerAfter hmem).elim h fun hgap => hgap.1 rfl

theorem not_mem_blank (h : ∀ c ∈ cs, Text.isBlank c = true) : '(' ∉ cs := fun hmem =>
  absurd (h '(' hmem) (by decide)

/-! ## Types of one bit -/

/-- The types that hold one bit if their size is one. -/
def bitNames : List String := ["tinyint", "bit"]

theorem bit_or_sized (h : String.ofList cs ∈ bitTypes) :
    cs = "bit".toList ∨ ∃ name ∈ bitNames, cs = name.toList ++ '(' :: "1)".toList := by
  have hchars : ∀ {text : String}, String.ofList cs = text → cs = text.toList := by
    rintro _ rfl
    exact String.toList_ofList.symm
  simp only [bitTypes, List.mem_cons, List.not_mem_nil, or_false] at h
  rcases h with htiny | hbit | hsized
  · exact .inr ⟨"tinyint", by decide, hchars htiny⟩
  · exact .inl (hchars hbit)
  · exact .inr ⟨"bit", by decide, hchars hsized⟩

theorem not_bit_of_unsized (hsize : '(' ∉ cs) (hname : String.ofList (trimChars cs) ∉ bitNames) :
    String.ofList (trimChars cs) ∉ bitTypes := by
  intro hbit
  rcases bit_or_sized hbit with hbare | ⟨name, -, hsized⟩
  · rw [hbare] at hname
    exact hname (by decide)
  · obtain ⟨front, back, -, -, hcs⟩ := Text.exists_eq_append_trimChars cs
    rw [hcs, hsized] at hsize
    simp at hsize

/-- A size makes a type of one bit only of one whose name says so. -/
theorem not_bit_of_sized (hsize : '(' ∉ cs) (hname : String.ofList (trimChars cs) ∉ bitNames)
    (back : List Char) : String.ofList (trimChars (cs ++ '(' :: back)) ∉ bitTypes := by
  intro hbit
  obtain ⟨front, rest, hfront, hrest, hcut⟩ :=
    Text.exists_eq_append_trimChars (cs ++ '(' :: back)
  rcases bit_or_sized hbit with hbare | ⟨name, hmem, hsized⟩
  · have hparenthesis : '(' ∈ front ++ (trimChars (cs ++ '(' :: back) ++ rest) := by
      rw [← hcut]
      simp
    rw [hbare, List.mem_append, List.mem_append] at hparenthesis
    rcases hparenthesis with hmem | hmem | hmem
    · exact not_mem_blank hfront hmem
    · exact absurd hmem (by decide)
    · exact not_mem_blank hrest hmem
  · have hnames : ∀ name ∈ bitNames, '(' ∉ name.toList ∧ trimChars name.toList = name.toList := by
      decide
    have hplain := hnames name hmem
    have hfirst : '(' ∉ front ++ name.toList :=
      List.not_mem_append (not_mem_blank hfront) hplain.1
    have hwhole : cs ++ '(' :: back = (front ++ name.toList) ++ '(' :: ("1)".toList ++ rest) := by
      rw [hsized] at hcut
      simpa using hcut
    have hcs : cs = front ++ (name.toList ++ []) := by
      rw [(Text.append_first_inj hsize hfirst hwhole).1, List.append_nil]
    rw [hcs, Text.trimChars_surrounded hfront (List.forall_mem_nil _), hplain.2,
      String.ofList_toList] at hname
    exact hname hmem

/-! ## Signs -/

theorem dropUnsigned_append (cs : List Char) :
    dropUnsigned (cs ++ " unsigned".toList) = dropUnsigned cs := by
  have hreverse : " unsigned".toList.reverse = ['d', 'e', 'n', 'g', 'i', 's', 'n', 'u', ' '] := by
    decide
  rw [dropUnsigned, List.reverse_append, hreverse]
  rfl

theorem not_bit_of_unsigned (cs : List Char) :
    String.ofList (cs ++ " unsigned".toList) ∉ bitTypes := by
  intro hbit
  have hlast : (cs ++ " unsigned".toList).getLast? = some 'd' := by
    rw [List.getLast?_append]
    rfl
  rcases bit_or_sized hbit with hbare | ⟨name, -, hsized⟩
  · rw [hbare] at hlast
    exact absurd hlast (by decide)
  · have hend : ('(' :: "1)".toList).getLast? = some ')' := by decide
    rw [hsized, List.getLast?_append, hend, Option.some_or] at hlast
    exact absurd hlast (by decide)

/-- A modifier right after a type stands at the end of what is left by trimming. -/
theorem trimChars_unsigned (hne : cs ≠ []) (hlast : ∀ c ∈ cs.getLast?, Text.isBlank c = false) :
    trimChars (cs ++ " unsigned".toList) = trimChars cs ++ " unsigned".toList := by
  obtain ⟨front, hfront, hcs⟩ := Text.exists_eq_append_of_last hlast
  have hname : trimChars cs ≠ [] := List.ne_nil_of_mem (Text.mem_trimChars
    (List.getLast_mem hne) (hlast _ (List.getLast?_eq_some_getLast hne)))
  have htrimmed : Text.Trimmed (trimChars cs ++ " unsigned".toList) := by
    refine ⟨fun c hc => (Text.trimmed_trimChars cs).head c ?_, fun c hc => ?_⟩
    · rwa [List.head?_append_of_ne_nil _ hname] at hc
    · rw [List.getLast?_append] at hc
      cases hc
      decide
  calc trimChars (cs ++ " unsigned".toList)
      _ = trimChars (front ++ ((trimChars cs ++ " unsigned".toList) ++ [])) := by
        rw [List.append_nil, ← List.append_assoc, ← hcs]
      _ = trimChars (trimChars cs ++ " unsigned".toList) :=
        Text.trimChars_surrounded hfront (List.forall_mem_nil _) _
      _ = trimChars cs ++ " unsigned".toList := htrimmed.trimChars_eq

/-! ## Modified types -/

section Modified

variable (hsize : '(' ∉ type.toList) (hname : Text.trim (Text.toLower type) ∉ bitNames)

include hsize hname

theorem ofDatabaseType_unmodified :
    ofDatabaseType type = ofBase (dropUnsigned (trimChars (lowerChars type.toList))) := by
  rw [trim_toLower] at hname
  rw [ofDatabaseType_eq]
  dsimp only
  rw [if_neg, beforeParenthesis_of_not_mem (not_mem_lowerChars hsize)]
  rw [List.contains_iff_mem]
  exact not_bit_of_unsized (not_mem_lowerChars hsize) hname

theorem ofDatabaseType_sized (size : String) :
    ofDatabaseType (type ++ "(" ++ size) = ofDatabaseType type := by
  have hchars : ∃ back, lowerChars (type ++ "(" ++ size).toList =
      lowerChars type.toList ++ '(' :: back := by
    rw [String.append_assoc, String.toList_append, String.toList_append]
    exact ⟨_, Text.lowerAfter_append (by decide) (by decide +kernel) [] type.toList size.toList⟩
  obtain ⟨back, hback⟩ := hchars
  rw [ofDatabaseType_unmodified hsize hname, ofDatabaseType_eq]
  rw [trim_toLower] at hname
  dsimp only
  rw [hback, if_neg, beforeParenthesis_sized (not_mem_lowerChars hsize)]
  rw [List.contains_iff_mem]
  exact not_bit_of_sized (not_mem_lowerChars hsize) hname back

theorem ofDatabaseType_unsigned (hlast : ∀ c ∈ type.toList.getLast?, Text.isBlank c = false) :
    ofDatabaseType (type ++ " unsigned") = ofDatabaseType type := by
  by_cases hne : type.toList = []
  · rw [String.toList_eq_nil_iff.1 hne]
    decide +kernel
  · have hchars : lowerChars (type ++ " unsigned").toList =
        lowerChars type.toList ++ " unsigned".toList := by
      rw [String.toList_append]
      calc lowerChars (type.toList ++ " unsigned".toList)
          _ = lowerChars type.toList ++
              Text.lowerAfter (type.toList.reverse ++ []) " unsigned".toList :=
            Text.lowerAfter_append (by decide) (by decide +kernel) [] type.toList "unsigned".toList
          _ = lowerChars type.toList ++ " unsigned".toList := by
            rw [Text.lowerAfter_of_ascii (Text.lt_of_isPlain (by decide))]
            rfl
    have hsign : '(' ∉ lowerChars type.toList ++ " unsigned".toList :=
      List.not_mem_append (not_mem_lowerChars hsize) (by decide)
    have htrim : trimChars (lowerChars type.toList ++ " unsigned".toList) =
        trimChars (lowerChars type.toList) ++ " unsigned".toList :=
      trimChars_unsigned (Text.lowerAfter_ne_nil hne []) (Text.isBlank_getLast?_lowerAfter hlast)
    rw [ofDatabaseType_unmodified hsize hname, ofDatabaseType_eq]
    dsimp only
    rw [hchars, beforeParenthesis_of_not_mem hsign, htrim, dropUnsigned_append, if_neg]
    rw [List.contains_iff_mem]
    exact not_bit_of_unsigned _

end Modified

/-! ## White space and case -/

theorem ofDatabaseType_restyled {other : String} (hascii : ∀ c ∈ type.toList, c.toNat < 0x80)
    (hcase : Text.toAsciiLower other = Text.toAsciiLower type)
    (hfront : ∀ c ∈ front, Text.isBlank c = true) (hback : ∀ c ∈ back, Text.isBlank c = true) :
    ofDatabaseType (String.ofList (front ++ (other.toList ++ back))) = ofDatabaseType type := by
  have hlower : other.toList.map Char.toLower = type.toList.map Char.toLower :=
    String.ofList_injective hcase
  have hother : ∀ c ∈ other.toList, c.toNat < 0x80 := by
    intro c hc
    have hmem : c.toLower ∈ type.toList.map Char.toLower := hlower ▸ List.mem_map_of_mem hc
    obtain ⟨d, hd, hsame⟩ := List.mem_map.1 hmem
    rw [← Text.toLower_lt_iff, ← hsame, Text.toLower_lt_iff]
    exact hascii d hd
  apply ofDatabaseType_congr
  rw [String.toList_ofList, Text.lowerChars_surrounded hfront hback hother,
    Text.trimChars_surrounded hfront hback, hlower, lowerChars, Text.lowerAfter_of_ascii hascii]

/-- A size, a sign, the white space around a type and the case of its letters leave its logical type
as it is, but for the size of the types that may hold one bit. -/
theorem modifiers_keep_logical_type :
    (∀ type : String, '(' ∉ type.toList → Text.trim (Text.toLower type) ≠ "tinyint" →
      Text.trim (Text.toLower type) ≠ "bit" →
      (∀ size : String, ofDatabaseType (type ++ "(" ++ size) = ofDatabaseType type) ∧
        ((∀ c ∈ type.toList.getLast?, Text.isBlank c = false) →
          ofDatabaseType (type ++ " unsigned") = ofDatabaseType type)) ∧
    ∀ type other front back : String, (∀ c ∈ type.toList, c.toNat < 0x80) →
      Text.toAsciiLower other = Text.toAsciiLower type →
      (∀ c ∈ front.toList, Text.isBlank c = true) → (∀ c ∈ back.toList, Text.isBlank c = true) →
      ofDatabaseType (front ++ other ++ back) = ofDatabaseType type := by
  refine ⟨fun type hsize htiny hbit => ?_,
    fun type other front back hascii hcase hfront hback => ?_⟩
  · have hname : Text.trim (Text.toLower type) ∉ bitNames := by
      simp [bitNames, htiny, hbit]
    exact ⟨ofDatabaseType_sized hsize hname, ofDatabaseType_unsigned hsize hname⟩
  · have hrestyled := ofDatabaseType_restyled hascii hcase hfront hback
    rwa [← String.toList_append, ← String.toList_append, String.ofList_toList,
      ← String.append_assoc] at hrestyled

theorem modified_types_of_numbers :
    ofDatabaseType "Numeric(10,2)" = ofDatabaseType "Numeric" ∧
      ofDatabaseType "BIGINT unsigned" = ofDatabaseType "BIGINT" ∧
      ofDatabaseType " TinyInt(1)\t" = ofDatabaseType "tinyint(1)" ∧
      ofDatabaseType "Numeric" = .decimal ∧ ofDatabaseType "BIGINT" = .integer ∧
      ofDatabaseType "tinyint(1)" = .boolean := by
  obtain ⟨hmodified, hrestyled⟩ := modifiers_keep_logical_type
  have hsized := (hmodified "Numeric" (by decide) (by decide +kernel) (by decide +kernel)).1 "10,2)"
  have hsigned := (hmodified "BIGINT" (by decide) (by decide +kernel) (by decide +kernel)).2
    (by rintro _ ⟨⟩; decide)
  have hspaced := hrestyled "tinyint(1)" "TinyInt(1)" " " "\t" (Text.lt_of_isPlain (by decide))
    (by decide +kernel) (List.all_eq_true.1 (by decide)) (List.all_eq_true.1 (by decide))
  exact ⟨hsized, hsigned, hspaced, by decide +kernel, by decide +kernel, by decide +kernel⟩

end Scaffold.LogicalType
