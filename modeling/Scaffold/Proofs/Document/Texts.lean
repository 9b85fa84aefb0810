import Scaffold.Document.Printer
import Scaffold.Document.Reader

/-!
# Texts between quotes

What the printer writes between quotes the reader spells out again, character by character.
-/

namespace Scaffold.Document

theorem hexDigit?_hexDigit {n : Nat} (h : n < 16) : hexDigit? (hexDigit n) = some n := by
  revert n
  decide

theorem hexUnit?_control {n : Nat} (h : n < 0x20) (rest : List Char) :
    hexUnit? ('0' :: '0' :: hexDigit (n / 16) :: hexDigit (n % 16) :: rest) = some (n, rest) := by
  have hzero : hexDigit? '0' = some 0 := rfl
  have hvalue : ((0 * 16 + 0) * 16 + n / 16) * 16 + n % 16 = n := by omega
  simp only [hexUnit?, hzero, hexDigit?_hexDigit (show n / 16 < 16 by omega),
    hexDigit?_hexDigit (Nat.mod_lt n (by decide)), Option.bind_eq_bind, Option.bind_some, hvalue]

/-- A code unit outside the surrogates is the character it counts. -/
theorem spell_unit {unit : Nat} (h : unit < 0xD800) (written : List Written) :
    spell (.inr unit :: written) = (spell written).map (Char.ofNat unit :: ·) := by
  have hhigh : ¬(0xD800 ≤ unit ∧ unit ≤ 0xDBFF) := by omega
  have hlow : ¬(0xDC00 ≤ unit ∧ unit ≤ 0xDFFF) := by omega
  have hsurrogate : ¬(0xD800 ≤ unit ∧ unit ≤ 0xDFFF) := by omega
  rcases written with _ | ⟨c | low, written⟩
  · simp only [spell, if_neg hsurrogate]
  · simp only [spell, if_neg hsurrogate]
  · simp only [spell, if_neg hhigh, if_neg hlow]

/-- The characters that follow, behind one that was read. -/
def prependWritten (item : Written) :
    Option (List Written × List Char) → Option (List Written × List Char) :=
  Option.map fun (written, back) => (item :: written, back)

theorem readWritten_short {e c : Char} (he : e ≠ 'u') (h : shortEscape? e = some c)
    (fuel : Nat) (rest : List Char) :
    readWritten (fuel + 1) ('\\' :: e :: rest) =
      prependWritten (.inl c) (readWritten fuel rest) := by
  simp only [readWritten, h]
  rcases readWritten fuel rest with _ | ⟨written, back⟩ <;> rfl

theorem readWritten_unit {unit : Nat} {cs rest : List Char} (h : hexUnit? cs = some (unit, rest))
    (fuel : Nat) :
    readWritten (fuel + 1) ('\\' :: 'u' :: cs) =
      prependWritten (.inr unit) (readWritten fuel rest) := by
  simp only [readWritten, h]
  rw [if_neg (by decide), if_pos trivial, Option.bind_eq_bind, Option.bind_some]
  rcases readWritten fuel rest with _ | ⟨written, back⟩ <;> rfl

theorem readWritten_plain {c : Char} (hquote : c ≠ '"') (hslash : c ≠ '\\')
    (hcontrol : ¬c.toNat < 0x20) (fuel : Nat) (rest : List Char) :
    readWritten (fuel + 1) (c :: rest) = prependWritten (.inl c) (readWritten fuel rest) := by
  rw [readWritten.eq_def]
  dsimp only
  rw [if_neg hquote, if_neg hslash, if_neg hcontrol]
  rcases readWritten fuel rest with _ | ⟨written, back⟩ <;> rfl

/-- What an escaped character is read as, and that this spells the character. -/
theorem exists_written (c : Char) :
    ∃ item, (∀ written, spell (item :: written) = (spell written).map (c :: ·)) ∧
      ∀ fuel rest, readWritten (fuel + 1) (escape c ++ rest) =
        prependWritten item (readWritten fuel rest) := by
  have hplain : ∀ written, spell (.inl c :: written) = (spell written).map (c :: ·) := by
    intro written
    simp only [spell]
  have hshort : ∀ e, e ≠ 'u' → shortEscape? e = some c → escape c = ['\\', e] →
      ∃ item, (∀ written, spell (item :: written) = (spell written).map (c :: ·)) ∧
        ∀ fuel rest, readWritten (fuel + 1) (escape c ++ rest) =
          prependWritten item (readWritten fuel rest) := by
    intro e he hescape hc
    refine ⟨.inl c, hplain, fun fuel rest => ?_⟩
    rw [hc]
    exact readWritten_short he hescape fuel rest
  by_cases hquote : c = '"'
  · subst hquote
    exact hshort '"' (by decide) rfl rfl
  by_cases hslash : c = '\\'
  · subst hslash
    exact hshort '\\' (by decide) rfl rfl
  by_cases hfeed : c = '\n'
  · subst hfeed
    exact hshort 'n' (by decide) rfl rfl
  by_cases hreturn : c = '\r'
  · subst hreturn
    exact hshort 'r' (by decide) rfl rfl
  by_cases htab : c = '\t'
  · subst htab
    exact hshort 't' (by decide) rfl rfl
  by_cases hback : c = '\x08'
  · subst hback
    exact hshort 'b' (by decide) rfl rfl
  by_cases hpage : c = '\x0C'
  · subst hpage
    exact hshort 'f' (by decide) rfl rfl
  by_cases hcontrol : c.toNat < 0x20
  · refine ⟨.inr c.toNat, fun written => ?_, fun fuel rest => ?_⟩
    · rw [spell_unit (by omega), Char.ofNat_toNat]
    · rw [escape, if_neg hquote, if_neg hslash, if_neg hfeed, if_neg hreturn, if_neg htab,
        if_neg hback, if_neg hpage, if_pos hcontrol]
      exact readWritten_unit (hexUnit?_control hcontrol rest) fuel
  · refine ⟨.inl c, hplain, fun fuel rest => ?_⟩
    rw [escape, if_neg hquote, if_neg hslash, if_neg hfeed, if_neg hreturn, if_neg htab,
      if_neg hback, if_neg hpage, if_neg hcontrol]
    exact readWritten_plain hquote hslash hcontrol fuel rest

theorem exists_readWritten_eq_some (cs rest : List Char) {fuel : Nat} (hfuel : cs.length < fuel) :
    ∃ written, readWritten fuel (cs.flatMap escape ++ '"' :: rest) = some (written, rest) ∧
      spell written = some cs := by
  induction cs generalizing fuel with
  | nil =>
      obtain ⟨fuel, rfl⟩ := Nat.exists_eq_add_one_of_ne_zero (Nat.ne_of_gt hfuel)
      exact ⟨[], rfl, rfl⟩
  | cons c cs ih =>
      obtain ⟨fuel, rfl⟩ := Nat.exists_eq_add_one_of_ne_zero (Nat.ne_zero_of_lt hfuel)
      obtain ⟨written, hread, hspell⟩ := ih (Nat.lt_of_succ_lt_succ hfuel)
      obtain ⟨item, hitem, hstep⟩ := exists_written c
      refine ⟨item :: written, ?_, ?_⟩
      · rw [List.flatMap_cons, List.append_assoc, hstep, hread]
        rfl
      · rw [hitem, hspell]
        rfl

theorem length_le_flatMap_escape (cs : List Char) : cs.length ≤ (cs.flatMap escape).length := by
  induction cs with
  | nil => exact Nat.le_refl 0
  | cons c cs ih =>
      have hone : 1 ≤ (escape c).length := by
        unfold escape
        repeat' split
        all_goals simp
      rw [List.flatMap_cons, List.length_append, List.length_cons]
      omega

/-- A text between quotes is read to its closing quote. -/
theorem readText_quoted (text : String) (rest : List Char) :
    readText (text.toList.flatMap escape ++ '"' :: rest) = some (some text, rest) := by
  have hlength := length_le_flatMap_escape text.toList
  have hfuel :
      text.toList.length < (text.toList.flatMap escape ++ '"' :: rest).length + 1 := by
    rw [List.length_append]
    omega
  obtain ⟨written, hread, hspell⟩ := exists_readWritten_eq_some text.toList rest hfuel
  rw [readText, hread, Option.map_some]
  dsimp only
  rw [hspell, Option.map_some, String.ofList_toList]

theorem toList_quoted (text : String) :
    (quoted text).toList = '"' :: (text.toList.flatMap escape ++ ['"']) := by
  rw [quoted, String.toList_ofList]
  rfl

end Scaffold.Document
