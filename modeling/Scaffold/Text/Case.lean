import Scaffold.Text.CaseData

/-!
# Letter case

Full case mapping: a character may become several, and a capital sigma that ends a word has a
lower-case form of its own.  ASCII is mapped directly, the rest through the tables.
-/

namespace Scaffold.Text

/-- Whether a code point lies on one of the runs `(first, last, step)`. -/
def onRun (runs : List (Nat × Nat × Nat)) (code : Nat) : Bool :=
  runs.any fun (first, last, step) =>
    first ≤ code && code ≤ last && (code - first) % step == 0

def isUpper (c : Char) : Bool :=
  if c.toNat < 0x80 then c.isUpper else onRun upperRuns c.toNat

def isLower (c : Char) : Bool :=
  if c.toNat < 0x80 then c.isLower else onRun lowerRuns c.toNat

/-- Upper, lower or title case. -/
def isCased (c : Char) : Bool :=
  isUpper c || isLower c || onRun titleRuns c.toNat

/-- Apostrophe, full stop, colon, circumflex and grave accent are the ASCII members. -/
def isCaseIgnorable (c : Char) : Bool :=
  if c.toNat < 0x80 then [0x27, 0x2E, 0x3A, 0x5E, 0x60].contains c.toNat
  else ignorableRanges.any fun (first, last) => first ≤ c.toNat && c.toNat ≤ last

/-- The image of a code point under runs of constant distance; itself if it is on none. -/
def shift (runs : List (Nat × Nat × Nat × Nat)) (code : Nat) : Nat :=
  match runs.find? fun (first, last, step, _) =>
      first ≤ code && code ≤ last && (code - first) % step == 0 with
  | some (first, _, _, image) => image + (code - first)
  | none => code

/-- The upper-case form of one character. -/
def upperOf (c : Char) : List Char :=
  if c.toNat < 0x80 then [c.toUpper]
  else match upperExpansions.lookup c.toNat with
    | some image => image.map Char.ofNat
    | none => [Char.ofNat (shift upperShifts c.toNat)]

/-- The lower-case form of one character, wherever it stands. -/
def lowerOf (c : Char) : List Char :=
  if c.toNat < 0x80 then [c.toLower]
  else match lowerExpansions.lookup c.toNat with
    | some image => image.map Char.ofNat
    | none => [Char.ofNat (shift lowerShifts c.toNat)]

/-- Whether the first character that is not case-ignorable is cased. -/
def startsCased (cs : List Char) : Bool :=
  match cs.dropWhile isCaseIgnorable with
  | [] => false
  | c :: _ => isCased c

/-- Lower case of a text, given the characters before it, nearest first.  A capital sigma with a
cased letter before it and none after it takes its final form. -/
def lowerAfter (before : List Char) : List Char → List Char
  | [] => []
  | c :: cs =>
      (if c = 'Σ' then [if startsCased before && !startsCased cs then 'ς' else 'σ']
        else lowerOf c) ++ lowerAfter (c :: before) cs

def upperChars (cs : List Char) : List Char :=
  cs.flatMap upperOf

def lowerChars (cs : List Char) : List Char :=
  lowerAfter [] cs

def toUpper (text : String) : String :=
  String.ofList (upperChars text.toList)

def toLower (text : String) : String :=
  String.ofList (lowerChars text.toList)

/-- ASCII letters in lower case, all else as it is. -/
def toAsciiLower (text : String) : String :=
  String.ofList (text.toList.map Char.toLower)

theorem lowerAfter_of_ascii {cs : List Char} (h : ∀ c ∈ cs, c.toNat < 0x80)
    (before : List Char) : lowerAfter before cs = cs.map Char.toLower := by
  induction cs generalizing before with
  | nil => rfl
  | cons c cs ih =>
      have hc : c.toNat < 0x80 := h c (by simp)
      have hs : c ≠ 'Σ' := by rintro rfl; exact absurd hc (by decide)
      simp [lowerAfter, hs, lowerOf, hc, ih fun d hd => h d (by simp [hd])]

end Scaffold.Text
