import Scaffold.Decimal.Shortest

/-!
# Writing decimals

Two written forms of the shortest decimal.  `positional` never uses an exponent and writes whole
numbers without a point; `compact` keeps a point in whole numbers and turns to an exponent outside
a middle range of magnitudes.
-/

namespace Scaffold.Decimal

private def zeros (n : Int) : List Char :=
  List.replicate n.toNat '0'

private def sign (d : Decimal) : List Char :=
  if d.negative then ['-'] else []

/-- Plain digits: `0.0000001`, `12.5`, `100`. -/
def positionalChars (d : Decimal) : List Char :=
  let digits := Nat.toDigits 10 d.digits
  let whole := digits.length + d.exponent
  sign d ++
    if d.digits = 0 then ['0']
    else if 0 ≤ d.exponent then digits ++ zeros d.exponent
    else if 0 < whole then digits.take whole.toNat ++ '.' :: digits.drop whole.toNat
    else '0' :: '.' :: zeros (-whole) ++ digits

/-- Positional from `1e-5` up to `1e16`, with an exponent elsewhere: `1.0`, `1e16`, `2.5e-7`. -/
def compactChars (d : Decimal) : List Char :=
  let digits := Nat.toDigits 10 d.digits
  let whole := digits.length + d.exponent
  sign d ++
    if d.digits = 0 then ['0', '.', '0']
    else if 0 ≤ d.exponent ∧ whole ≤ 16 then digits ++ zeros d.exponent ++ ['.', '0']
    else if 0 < whole ∧ whole ≤ 16 then
      digits.take whole.toNat ++ '.' :: digits.drop whole.toNat
    else if -5 < whole ∧ whole ≤ 0 then '0' :: '.' :: zeros (-whole) ++ digits
    else
      (match digits with
        | first :: second :: rest => first :: '.' :: second :: rest
        | _ => digits) ++ 'e' :: (toString (whole - 1)).toList

/-- The positional form of a number; the values that are not finite have names. -/
def positional (x : Float) : String :=
  if x.isNaN then "NaN"
  else if x.isInf then if x < 0 then "-inf" else "inf"
  else String.ofList (ofFloat x).positionalChars

def compact (x : Float) : String :=
  String.ofList (ofFloat x).compactChars

end Scaffold.Decimal
