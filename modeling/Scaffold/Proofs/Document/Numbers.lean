import Mathlib.Data.List.Basic
import Scaffold.Document.Printer
import Scaffold.Document.Reader

/-!
# Numbers in texts

A number that a text ends with, or that is followed by the next part of a document, reads the same.
Natural numbers that fit into 64 bits come back from the digits they are written with.
-/

namespace Scaffold.Document

/-- What may follow a value: nothing, the next value, or the end of the container. -/
def Ends (rest : List Char) : Prop :=
  ∀ c ∈ rest.head?, c = ',' ∨ c = ']' ∨ c = '\x7d'

section Ends

variable {rest : List Char}

theorem Ends.nil : Ends [] := by
  intro c hc
  cases hc

theorem ends_comma (rest : List Char) : Ends (',' :: rest) := by
  intro c hc
  exact .inl (Option.some.inj hc).symm

theorem ends_bracket (rest : List Char) : Ends (']' :: rest) := by
  intro c hc
  exact .inr (.inl (Option.some.inj hc).symm)

theorem ends_brace (rest : List Char) : Ends ('\x7d' :: rest) := by
  intro c hc
  exact .inr (.inr (Option.some.inj hc).symm)

theorem Ends.cases (h : Ends rest) :
    rest = [] ∨ ∃ back, rest = ',' :: back ∨ rest = ']' :: back ∨ rest = '\x7d' :: back := by
  cases rest with
  | nil => exact .inl rfl
  | cons c back =>
      rcases h c rfl with rfl | rfl | rfl
      · exact .inr ⟨back, .inl rfl⟩
      · exact .inr ⟨back, .inr (.inl rfl)⟩
      · exact .inr ⟨back, .inr (.inr rfl)⟩

theorem Ends.readDigits (h : Ends rest) : readDigits rest = ([], rest) := by
  obtain rfl | ⟨back, rfl | rfl | rfl⟩ := h.cases <;> rfl

theorem Ends.readFraction (h : Ends rest) : readFraction rest = some ([], rest) := by
  obtain rfl | ⟨back, rfl | rfl | rfl⟩ := h.cases <;> rfl

theorem Ends.readExponent (h : Ends rest) : readExponent rest = some (none, rest) := by
  obtain rfl | ⟨back, rfl | rfl | rfl⟩ := h.cases <;> rfl

theorem Ends.readDigits_append (h : Ends rest) (cs : List Char) :
    Document.readDigits (cs ++ rest) =
      ((Document.readDigits cs).1, (Document.readDigits cs).2 ++ rest) := by
  induction cs with
  | nil => exact h.readDigits
  | cons c cs ih =>
      rw [List.cons_append, Document.readDigits, Document.readDigits, ih]
      split <;> rfl

theorem readFraction_point (cs : List Char) :
    Document.readFraction ('.' :: cs) =
      if (Document.readDigits cs).1 = [] then none else some (Document.readDigits cs) := by
  rw [Document.readFraction]
  rcases Document.readDigits cs with ⟨_ | ⟨digit, digits⟩, back⟩ <;> rfl

theorem readFraction_of_ne {c : Char} (hc : c ≠ '.') (cs : List Char) :
    Document.readFraction (c :: cs) = some ([], c :: cs) := by
  unfold Document.readFraction
  split
  · next heq => exact absurd (List.cons.inj heq).1 hc
  · rfl

theorem Ends.readFraction_append (h : Ends rest) {cs back : List Char} {digits : List Nat}
    (hread : Document.readFraction cs = some (digits, back)) :
    Document.readFraction (cs ++ rest) = some (digits, back ++ rest) := by
  cases cs with
  | nil =>
      cases hread
      exact h.readFraction
  | cons c cs =>
      by_cases hc : c = '.'
      · subst hc
        rw [readFraction_point] at hread
        rw [List.cons_append, readFraction_point, h.readDigits_append]
        by_cases hdigits : (Document.readDigits cs).1 = []
        · rw [if_pos hdigits] at hread
          cases hread
        · rw [if_neg hdigits] at hread ⊢
          rw [Option.some.inj hread]
      · rw [readFraction_of_ne hc] at hread
        cases hread
        rw [List.cons_append, readFraction_of_ne hc]

/-- Whether an exponent is positive, and what follows its sign. -/
def exponentSign : List Char → Bool × List Char
  | '+' :: rest => (true, rest)
  | '-' :: rest => (false, rest)
  | rest => (true, rest)

/-- What an exponent is whose sign has been read. -/
def exponentAfter (sign : Bool × List Char) : Option (Option (Bool × List Nat) × List Char) :=
  match Document.readDigits sign.2 with
  | ([], _) => none
  | (digits, rest) => some (some (sign.1, digits), rest)

theorem exponentSign_append {cs : List Char} (hne : cs ≠ []) (rest : List Char) :
    exponentSign (cs ++ rest) = ((exponentSign cs).1, (exponentSign cs).2 ++ rest) := by
  cases cs with
  | nil => exact absurd rfl hne
  | cons c cs =>
      rw [List.cons_append]
      unfold exponentSign
      split
      · next heq => cases heq; rfl
      · next heq => cases heq; rfl
      · next hplus hminus =>
          split
          · next heq => cases heq; exact absurd rfl (hplus _)
          · next heq => cases heq; exact absurd rfl (hminus _)
          · rfl

theorem readExponent_letter {c : Char} (hc : c = 'e' ∨ c = 'E') (cs : List Char) :
    Document.readExponent (c :: cs) =
      let (digits, back) := Document.readDigits (exponentSign cs).2
      if digits = [] then none else some (some ((exponentSign cs).1, digits), back) := by
  unfold Document.readExponent
  dsimp only
  rw [if_pos hc]
  change exponentAfter (exponentSign cs) = _
  rcases exponentSign cs with ⟨positive, cs⟩
  dsimp only [exponentAfter]
  rcases Document.readDigits cs with ⟨_ | ⟨digit, digits⟩, back⟩ <;> rfl

theorem Ends.readExponent_append (h : Ends rest) {cs back : List Char}
    {exponent : Option (Bool × List Nat)}
    (hread : Document.readExponent cs = some (exponent, back)) :
    Document.readExponent (cs ++ rest) = some (exponent, back ++ rest) := by
  cases cs with
  | nil =>
      cases hread
      exact h.readExponent
  | cons c cs =>
      by_cases hc : c = 'e' ∨ c = 'E'
      · have hne : cs ≠ [] := by
          rintro rfl
          rw [readExponent_letter hc] at hread
          cases hread
        rw [readExponent_letter hc] at hread
        rw [List.cons_append, readExponent_letter hc, exponentSign_append hne]
        dsimp only at hread ⊢
        rw [h.readDigits_append]
        by_cases hdigits : (Document.readDigits (exponentSign cs).2).1 = []
        · rw [if_pos hdigits] at hread
          cases hread
        · rw [if_neg hdigits] at hread ⊢
          cases hread
          rfl
      · unfold Document.readExponent at hread ⊢
        rw [List.cons_append]
        dsimp only at hread ⊢
        rw [if_neg hc] at hread ⊢
        cases hread
        rfl

/-- Whether a number is negative, and what follows its sign. -/
def numberSign : List Char → Bool × List Char
  | '-' :: rest => (true, rest)
  | rest => (false, rest)

theorem numberSign_append {cs : List Char} (hne : cs ≠ []) (rest : List Char) :
    numberSign (cs ++ rest) = ((numberSign cs).1, (numberSign cs).2 ++ rest) := by
  cases cs with
  | nil => exact absurd rfl hne
  | cons c cs =>
      rw [List.cons_append]
      unfold numberSign
      split
      · next heq => cases heq; rfl
      · next hminus =>
          split
          · next heq => cases heq; exact absurd rfl (hminus _)
          · rfl

/-- The digits before the point: some, and a leading zero stands alone. -/
def IsWhole (digits : List Nat) : Prop :=
  ∃ first rest, digits = first :: rest ∧ (first = 0 → rest = [])

theorem readNumber_eq_some_iff {cs : List Char} {document : Document} {back : List Char} :
    readNumber cs = some (document, back) ↔
      IsWhole (Document.readDigits (numberSign cs).2).1 ∧
      ∃ fraction front exponent,
        Document.readFraction (Document.readDigits (numberSign cs).2).2 = some (fraction, front) ∧
        Document.readExponent front = some (exponent, back) ∧
        Numeral.value ⟨(numberSign cs).1, (Document.readDigits (numberSign cs).2).1, fraction,
          exponent⟩ = document := by
  unfold readNumber
  split
  next negative unsigned heq =>
  have hsign : numberSign cs = (negative, unsigned) := heq
  rw [hsign]
  dsimp only
  rcases Document.readDigits unsigned with ⟨whole, rest⟩
  dsimp only
  rcases whole with _ | ⟨_ | first, _ | ⟨second, whole⟩⟩
  · simp [IsWhole]
  · simp [IsWhole, Option.bind_eq_some_iff]
  · simp [IsWhole]
  · simp [IsWhole, Option.bind_eq_some_iff]
  · simp [IsWhole, Option.bind_eq_some_iff]

/-- A number reads the same if the document goes on behind it. -/
theorem Ends.readNumber_append (h : Ends rest) {cs back : List Char} {document : Document}
    (hread : readNumber cs = some (document, back)) :
    readNumber (cs ++ rest) = some (document, back ++ rest) := by
  obtain ⟨hwhole, fraction, front, exponent, hfraction, hexponent, hvalue⟩ :=
    readNumber_eq_some_iff.1 hread
  have hne : cs ≠ [] := by
    rintro rfl
    obtain ⟨first, digits, hdigits, -⟩ := hwhole
    cases hdigits
  rw [readNumber_eq_some_iff, numberSign_append hne]
  dsimp only
  rw [h.readDigits_append]
  exact ⟨hwhole, fraction, front ++ rest, exponent, h.readFraction_append hfraction,
    h.readExponent_append hexponent, hvalue⟩

/-- A number starts with its sign or a digit. -/
theorem exists_cons_of_readNumber {cs back : List Char} {document : Document}
    (hread : readNumber cs = some (document, back)) :
    ∃ c front, cs = c :: front ∧ (c = '-' ∨ c.isDigit = true) := by
  obtain ⟨⟨first, digits, hdigits, -⟩, -⟩ := readNumber_eq_some_iff.1 hread
  cases cs with
  | nil => cases hdigits
  | cons c front =>
      refine ⟨c, front, rfl, ?_⟩
      unfold numberSign at hdigits
      split at hdigits
      · next heq => exact .inl (List.cons.inj heq).1
      · rw [Document.readDigits] at hdigits
        split at hdigits
        · next hc => exact .inr hc
        · cases hdigits

end Ends

/-! ## Natural numbers -/

/-- The values of digits. -/
def digitValues (cs : List Char) : List Nat :=
  cs.map fun c => c.toNat - 0x30

theorem Ends.readDigits_digits {rest : List Char} (h : Ends rest) {cs : List Char}
    (hdigits : ∀ c ∈ cs, c.isDigit = true) :
    Document.readDigits (cs ++ rest) = (digitValues cs, rest) := by
  induction cs with
  | nil => exact h.readDigits
  | cons c cs ih =>
      rw [List.cons_append, Document.readDigits, if_pos (hdigits c List.mem_cons_self),
        ih fun x hx => hdigits x (List.mem_cons_of_mem c hx)]
      rfl

theorem digitValue_digitChar {digit : Nat} (h : digit < 10) :
    (Nat.digitChar digit).toNat - 0x30 = digit := by
  rw [Nat.toNat_digitChar_of_lt_ten h]
  omega

theorem digitValues_toDigits_of_lt {n : Nat} (h : n < 10) :
    digitValues (Nat.toDigits 10 n) = [n] := by
  rw [Nat.toDigits_of_lt_base h]
  exact congrArg (· :: []) (digitValue_digitChar h)

theorem digitValues_toDigits_of_le {n : Nat} (h : 10 ≤ n) :
    digitValues (Nat.toDigits 10 n) = digitValues (Nat.toDigits 10 (n / 10)) ++ [n % 10] := by
  rw [Nat.toDigits_of_base_le (by decide) h, digitValues, List.map_append]
  exact congrArg (_ ++ [·]) (digitValue_digitChar (Nat.mod_lt n (by decide)))

theorem absorb_append {significand value : Nat} {front back : List Nat}
    (h : absorb significand front = (value, 0)) :
    absorb significand (front ++ back) = absorb value back := by
  induction front generalizing significand with
  | nil =>
      cases h
      rfl
  | cons digit front ih =>
      rw [absorb] at h
      rw [List.cons_append, absorb]
      split at h
      · next hfits =>
          rw [if_pos hfits]
          exact ih h
      · cases h

theorem absorb_toDigits {n : Nat} (h : n ≤ largestWord) :
    absorb 0 (digitValues (Nat.toDigits 10 n)) = (n, 0) := by
  induction n using Nat.strongRecOn with
  | ind n ih =>
    rcases Nat.lt_or_ge n 10 with hlt | hge
    · rw [digitValues_toDigits_of_lt hlt, absorb, if_pos (by omega), Nat.zero_mul, Nat.zero_add]
      rfl
    · have hsplit : n / 10 * 10 + n % 10 = n := by omega
      rw [digitValues_toDigits_of_le hge, absorb_append (ih (n / 10) (by omega) (by omega)),
        absorb, hsplit, if_pos h]
      rfl

theorem isWhole_toDigits (n : Nat) : IsWhole (digitValues (Nat.toDigits 10 n)) := by
  rcases Nat.eq_zero_or_pos n with rfl | hpos
  · exact ⟨0, [], rfl, fun _ => rfl⟩
  · suffices ∃ first rest, digitValues (Nat.toDigits 10 n) = first :: rest ∧ first ≠ 0 by
      obtain ⟨first, rest, hdigits, hfirst⟩ := this
      exact ⟨first, rest, hdigits, fun hzero => absurd hzero hfirst⟩
    induction n using Nat.strongRecOn with
    | ind n ih =>
      rcases Nat.lt_or_ge n 10 with hlt | hge
      · exact ⟨n, [], digitValues_toDigits_of_lt hlt, by omega⟩
      · obtain ⟨first, rest, hdigits, hfirst⟩ := ih (n / 10) (by omega) (by omega)
        rw [digitValues_toDigits_of_le hge, hdigits]
        exact ⟨first, rest ++ [n % 10], rfl, hfirst⟩

theorem numberSign_digits {cs : List Char} (hdigits : ∀ c ∈ cs, c.isDigit = true)
    {rest : List Char} (h : Ends rest) : numberSign (cs ++ rest) = (false, cs ++ rest) := by
  unfold numberSign
  split
  · next back heq =>
      exfalso
      cases cs with
      | nil =>
          rw [List.nil_append] at heq
          have hc := h '-' (by rw [heq]; rfl)
          revert hc
          decide
      | cons c cs =>
          have hc := hdigits '-' (by rw [(List.cons.inj heq).1]; exact List.mem_cons_self)
          revert hc
          decide
  · rfl

theorem readNumber_toDigits {n : Nat} (hn : n ≤ largestWord) {rest : List Char} (h : Ends rest) :
    readNumber (Nat.toDigits 10 n ++ rest) = some (.integer n, rest) := by
  have hdigits : ∀ c ∈ Nat.toDigits 10 n, c.isDigit = true := fun c hc =>
    Nat.isDigit_of_mem_toDigits (by decide) (by decide) hc
  rw [readNumber_eq_some_iff, numberSign_digits hdigits h]
  dsimp only
  rw [h.readDigits_digits hdigits]
  refine ⟨isWhole_toDigits n, [], rest, none, h.readFraction, h.readExponent, ?_⟩
  unfold Numeral.value
  simp only [absorb_toDigits hn]
  rfl

end Scaffold.Document
