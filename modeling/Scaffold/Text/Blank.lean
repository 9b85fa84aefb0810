/-!
# White space

Text is trimmed of the 25 characters with the Unicode property `White_Space`, which is a larger
set than the ASCII one and leaves out the zero-width space.
-/

namespace Scaffold.Text

/-- White space in every script. -/
def isBlank (c : Char) : Bool :=
  let code := c.toNat
  (0x09 ≤ code && code ≤ 0x0D) || code == 0x20 || code == 0x85 || code == 0xA0 ||
    code == 0x1680 || (0x2000 ≤ code && code ≤ 0x200A) || code == 0x2028 || code == 0x2029 ||
    code == 0x202F || code == 0x205F || code == 0x3000

/-- The characters left when white space is taken from the end. -/
def trimEnd (cs : List Char) : List Char :=
  (cs.reverse.dropWhile isBlank).reverse

/-- The characters left when white space is taken from both ends. -/
def trimChars (cs : List Char) : List Char :=
  trimEnd (cs.dropWhile isBlank)

/-- The text without white space at either end. -/
def trim (text : String) : String :=
  String.ofList (trimChars text.toList)

@[simp] theorem toList_trim (text : String) : (trim text).toList = trimChars text.toList := by
  simp [trim]

@[simp] theorem trimChars_nil : trimChars [] = [] := rfl

end Scaffold.Text
