import Scaffold.Document.Basic

/-!
# Numerals

A numeral without fraction and exponent denotes an integer if it fits into 64 bits.  Any other one
denotes a binary number, computed from the leading digits that fit into 64 bits and a power of ten;
the digits after them count only as places.
-/

namespace Scaffold.Document

/-- A numeral as it is written.  Digits are values below ten. -/
structure Numeral where
  negative : Bool
  whole : List Nat
  fraction : List Nat
  /-- Whether the exponent is positive, and its digits. -/
  exponent : Option (Bool × List Nat)

/-- Largest significand. -/
def largestWord : Nat := UInt64.size - 1

/-- Appends digits to a significand while it fits, and counts the digits left over. -/
def absorb (significand : Nat) : List Nat → Nat × Nat
  | [] => (significand, 0)
  | digit :: digits =>
      if significand * 10 + digit ≤ largestWord then absorb (significand * 10 + digit) digits
      else (significand, digits.length + 1)

/-- `x * 10 ^ exponent` by one multiplication or division with a power of ten up to `10 ^ 308`,
after as many divisions by `10 ^ 308` as it takes.  Nothing if the result is not finite. -/
def scaled (x : Float) (exponent : Int) : Option Float :=
  if exponent.natAbs ≤ 308 then
    let power := Float.ofScientific 1 false exponent.natAbs
    if 0 ≤ exponent then
      let product := x * power
      if product.isInf then none else some product
    else some (x / power)
  else if x == 0 then some x
  else if 0 ≤ exponent then none
  else scaled (x / Float.ofScientific 1 false 308) (exponent + 308)
termination_by exponent.natAbs
decreasing_by omega

def signed (negative : Bool) (x : Float) : Document :=
  .real (if negative then -x else x)

/-- The number a significand and a power of ten denote. -/
def binary (negative : Bool) (significand : Nat) (exponent : Int) : Document :=
  match scaled significand.toUInt64.toFloat exponent with
  | some x => signed negative x
  | none => .unreadable

/-- Largest exponent that is read as a number. -/
def largestExponent : Nat := 0x7FFFFFFF

def valueOf (digits : List Nat) : Nat :=
  digits.foldl (fun value digit => value * 10 + digit) 0

/-- The value of a numeral. -/
def Numeral.value (numeral : Numeral) : Document :=
  let (whole, skipped) := absorb 0 numeral.whole
  let (significand, ignored) := absorb whole numeral.fraction
  let places : Int := skipped - ((numeral.fraction.length - ignored : Nat) : Int)
  match numeral.exponent with
  | some (positive, digits) =>
      if valueOf digits ≤ largestExponent then
        let exponent := if positive then places + valueOf digits else places - valueOf digits
        binary numeral.negative significand exponent
      else if positive && significand != 0 then .unreadable
      else signed numeral.negative 0
  | none =>
      if !numeral.fraction.isEmpty then binary numeral.negative significand places
      else if skipped != 0 then binary numeral.negative whole skipped
      else if !numeral.negative then .integer whole
      else if whole = 0 ∨ 0x8000000000000000 < whole then signed true whole.toUInt64.toFloat
      else .integer (-whole)

end Scaffold.Document
