import Mathlib.Data.List.Basic
import Scaffold.Proofs.Naming.ClassName
import Scaffold.Text.Blank

/-!
# Lower case

White space has no case, and no letter becomes white space or a mark.  A character that has no case
and that no word goes on across keeps the texts on both sides of it apart, the final form of sigma
included.
-/

namespace Scaffold.Text

/-! ## Characters -/

/-- The code points of white space. -/
def blankCodes : List Nat :=
  List.range' 0x09 5 ++ List.range' 0x2000 11 ++
    [0x20, 0x85, 0xA0, 0x1680, 0x2028, 0x2029, 0x202F, 0x205F, 0x3000]

theorem isBlank_iff {c : Char} : isBlank c = true ↔ c.toNat ∈ blankCodes := by
  simp only [isBlank, blankCodes, Bool.or_eq_true, Bool.and_eq_true, decide_eq_true_eq, beq_iff_eq,
    List.mem_append, List.mem_range'_1, List.mem_cons, List.not_mem_nil, or_false]
  omega

theorem case_of_isBlank {c : Char} (h : isBlank c = true) :
    c ≠ 'Σ' ∧ lowerOf c = [c] ∧ c.toLower = c := by
  have hall : ∀ code ∈ blankCodes, Char.ofNat code ≠ 'Σ' ∧
      lowerOf (Char.ofNat code) = [Char.ofNat code] ∧
      (Char.ofNat code).toLower = Char.ofNat code := by
    decide +kernel
  have hfound := hall c.toNat (isBlank_iff.1 h)
  rwa [Char.ofNat_toNat] at hfound

/-- The code points of white space and of the opening parenthesis. -/
def gapCodes : List Nat := 0x28 :: blankCodes

theorem isBlank_eq_false_of_not_mem {c : Char} (h : c.toNat ∉ gapCodes) :
    c ≠ '(' ∧ isBlank c = false := by
  refine ⟨?_, Bool.eq_false_iff.2 fun hblank => ?_⟩
  · rintro rfl
    exact h (by decide)
  · exact h (List.mem_cons_of_mem _ (isBlank_iff.1 hblank))

theorem shift_lowerShifts_cases (code : Nat) :
    shift lowerShifts code = code ∨ shift lowerShifts code ∉ gapCodes := by
  have himages : ∀ run ∈ lowerShifts, ∀ gap ∈ gapCodes,
      gap < run.2.2.2 ∨ run.2.2.2 + (run.2.1 - run.1) < gap := by
    decide +kernel
  unfold shift
  split
  · next first last step image hfind =>
      right
      intro hgap
      have hrun := himages _ (List.mem_of_find?_eq_some hfind) _ hgap
      have hfound := List.find?_some hfind
      simp only [Bool.and_eq_true, decide_eq_true_eq] at hfound
      dsimp only at hrun
      omega
  · exact .inl rfl

theorem ofNat_not_mem_gapCodes {code : Nat} (h : code ∉ gapCodes) :
    (Char.ofNat code).toNat ∉ gapCodes := by
  by_cases hvalid : code.isValidChar
  · have hcode : Char.ofNat code = Char.ofNatAux code hvalid := dif_pos hvalid
    rw [hcode]
    exact h
  · have hcode : Char.ofNat code = '\x00' := dif_neg hvalid
    rw [hcode]
    decide

/-- A character stays as it is, or becomes characters that are no gap. -/
theorem lowerOf_cases (c : Char) :
    lowerOf c = [c] ∨
      lowerOf c ≠ [] ∧ ∀ d ∈ lowerOf c, d ≠ '(' ∧ isBlank d = false := by
  unfold lowerOf
  by_cases hascii : c.toNat < 0x80
  · rw [if_pos hascii]
    have hlower : c.toLower = c ∨ c.toLower.toNat ∉ gapCodes :=
      forall_ascii (P := fun c => c.toLower = c ∨ c.toLower.toNat ∉ gapCodes)
        (by decide +kernel) hascii
    rcases hlower with hsame | hgap
    · exact .inl (by rw [hsame])
    · exact .inr ⟨List.cons_ne_nil _ _,
        List.forall_mem_singleton.2 (isBlank_eq_false_of_not_mem hgap)⟩
  · rw [if_neg hascii]
    cases hlookup : lowerExpansions.lookup c.toNat with
    | some image =>
        have hexpansions : ∀ expansion ∈ lowerExpansions, expansion.2 ≠ [] ∧
            ∀ code ∈ expansion.2, code ∉ gapCodes := by
          decide +kernel
        obtain ⟨_, _, hmem, -⟩ := List.lookup_eq_some_iff.1 hlookup
        obtain ⟨hne, himage⟩ := hexpansions (c.toNat, image) (by rw [hmem]; simp)
        refine .inr ⟨by simpa using hne, fun d hd => ?_⟩
        obtain ⟨code, hcode, rfl⟩ := List.mem_map.1 hd
        exact isBlank_eq_false_of_not_mem (ofNat_not_mem_gapCodes (himage code hcode))
    | none =>
        dsimp only
        rcases shift_lowerShifts_cases c.toNat with hsame | hgap
        · exact .inl (by rw [hsame, Char.ofNat_toNat])
        · exact .inr ⟨List.cons_ne_nil _ _, List.forall_mem_singleton.2
            (isBlank_eq_false_of_not_mem (ofNat_not_mem_gapCodes hgap))⟩

theorem toLower_lt_iff {c : Char} : c.toLower.toNat < 0x80 ↔ c.toNat < 0x80 := by
  by_cases hc : c.toNat < 0x80
  · exact iff_of_true
      (forall_ascii (P := fun c => c.toLower.toNat < 0x80) (by decide +kernel) hc) hc
  · rw [toLower_of_not_ascii hc]

/-! ## Texts -/

variable {before cs front back : List Char} {c d : Char}

theorem eq_or_of_mem_lowerOf (h : d ∈ lowerOf c) : d = c ∨ d ≠ '(' ∧ isBlank d = false := by
  rcases lowerOf_cases c with hsame | ⟨-, hgap⟩
  · rw [hsame, List.mem_singleton] at h
    exact .inl h
  · exact .inr (hgap d h)

/-- The lower case of one character of a text: its own, or one of the two forms of a sigma. -/
theorem exists_lowerAfter_cons (before : List Char) (c : Char) (cs : List Char) :
    ∃ image, lowerAfter before (c :: cs) = image ++ lowerAfter (c :: before) cs ∧ image ≠ [] ∧
      ∀ d ∈ image, d = c ∨ d ≠ '(' ∧ isBlank d = false := by
  refine ⟨_, rfl, ?_, fun d hd => ?_⟩
  · split
    · exact List.cons_ne_nil _ _
    · rcases lowerOf_cases c with hsame | ⟨hne, -⟩
      · rw [hsame]
        exact List.cons_ne_nil _ _
      · exact hne
  · split at hd
    · rw [List.mem_singleton] at hd
      right
      split at hd <;> rw [hd] <;> decide
    · exact eq_or_of_mem_lowerOf hd

/-- Lower case brings no parenthesis and no white space into a text. -/
theorem mem_or_of_mem_lowerAfter (h : d ∈ lowerAfter before cs) :
    d ∈ cs ∨ d ≠ '(' ∧ isBlank d = false := by
  induction cs generalizing before with
  | nil => cases h
  | cons c cs ih =>
      obtain ⟨image, hcons, -, himage⟩ := exists_lowerAfter_cons before c cs
      rw [hcons, List.mem_append] at h
      rcases h with hfirst | hrest
      · exact (himage d hfirst).imp_left fun hsame => List.mem_cons.2 (.inl hsame)
      · exact (ih hrest).imp_left (List.mem_cons_of_mem c)

theorem lowerAfter_ne_nil (hne : cs ≠ []) (before : List Char) : lowerAfter before cs ≠ [] := by
  obtain ⟨c, cs, rfl⟩ := List.exists_cons_of_ne_nil hne
  obtain ⟨image, hcons, himage, -⟩ := exists_lowerAfter_cons before c cs
  rw [hcons]
  exact fun hnil => himage (List.append_eq_nil_iff.1 hnil).1

theorem isBlank_getLast?_lowerAfter (h : ∀ c ∈ cs.getLast?, isBlank c = false) :
    ∀ d ∈ (lowerAfter before cs).getLast?, isBlank d = false := by
  induction cs generalizing before with
  | nil => intro d hd; cases hd
  | cons c cs ih =>
      obtain ⟨image, hcons, -, himage⟩ := exists_lowerAfter_cons before c cs
      intro d hd
      rw [hcons] at hd
      cases cs with
      | nil =>
          rw [lowerAfter, List.append_nil] at hd
          rcases himage d (List.mem_of_mem_getLast? hd) with rfl | ⟨-, hblank⟩
          · exact h d rfl
          · exact hblank
      | cons next rest =>
          have hrest := lowerAfter_ne_nil (List.cons_ne_nil next rest) (c :: before)
          rw [List.getLast?_append_of_ne_nil _ hrest] at hd
          exact ih h d hd

theorem startsCased_append (hignorable : isCaseIgnorable c = false) (hcased : isCased c = false)
    (front back : List Char) : startsCased (front ++ c :: back) = startsCased front := by
  induction front with
  | nil => simp [startsCased, hignorable, hcased]
  | cons d front ih =>
      unfold startsCased at ih ⊢
      rw [List.cons_append, List.dropWhile_cons, List.dropWhile_cons]
      by_cases hd : isCaseIgnorable d = true
      · rw [if_pos hd, if_pos hd, ih]
      · rw [if_neg hd, if_neg hd]

/-- What follows a character without case has no part in the case of what stands before it. -/
theorem lowerAfter_append (hignorable : isCaseIgnorable c = false) (hcased : isCased c = false)
    (before front back : List Char) :
    lowerAfter before (front ++ c :: back) =
      lowerAfter before front ++ lowerAfter (front.reverse ++ before) (c :: back) := by
  induction front generalizing before with
  | nil => rfl
  | cons d front ih =>
      rw [List.cons_append, lowerAfter, lowerAfter, startsCased_append hignorable hcased, ih,
        List.append_assoc, List.reverse_cons, List.append_assoc]
      rfl

/-- ASCII and white space are in lower case character by character. -/
theorem lowerAfter_of_simple (h : ∀ c ∈ cs, c.toNat < 0x80 ∨ isBlank c = true)
    (before : List Char) : lowerAfter before cs = cs.map Char.toLower := by
  induction cs generalizing before with
  | nil => rfl
  | cons c cs ih =>
      obtain ⟨hc, hcs⟩ := List.forall_mem_cons.1 h
      have hone : c ≠ 'Σ' ∧ lowerOf c = [c.toLower] := by
        rcases hc with hascii | hblank
        · refine ⟨?_, by rw [lowerOf, if_pos hascii]⟩
          rintro rfl
          exact absurd hascii (by decide)
        · obtain ⟨hsigma, hlower, hsame⟩ := case_of_isBlank hblank
          exact ⟨hsigma, by rw [hlower, hsame]⟩
      rw [lowerAfter, if_neg hone.1, hone.2, ih hcs]
      rfl

theorem map_toLower_of_blank (h : ∀ c ∈ cs, isBlank c = true) : cs.map Char.toLower = cs :=
  map_eq_self fun c hc => (case_of_isBlank (h c hc)).2.2

theorem lowerChars_surrounded (hfront : ∀ c ∈ front, isBlank c = true)
    (hback : ∀ c ∈ back, isBlank c = true) (hascii : ∀ c ∈ cs, c.toNat < 0x80) :
    lowerChars (front ++ (cs ++ back)) = front ++ (cs.map Char.toLower ++ back) := by
  have hsimple : ∀ c ∈ front ++ (cs ++ back), c.toNat < 0x80 ∨ isBlank c = true := by
    rw [List.forall_mem_append, List.forall_mem_append]
    exact ⟨fun c hc => .inr (hfront c hc), fun c hc => .inl (hascii c hc),
      fun c hc => .inr (hback c hc)⟩
  rw [lowerChars, lowerAfter_of_simple hsimple, List.map_append, List.map_append,
    map_toLower_of_blank hfront, map_toLower_of_blank hback]

end Scaffold.Text
