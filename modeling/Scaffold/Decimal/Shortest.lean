/-!
# Shortest decimals

Among the decimals that round to a given binary number, the ones with the fewest digits, and of
those the nearest.  The arithmetic is exact: the number and the interval that rounds to it are
fractions over one denominator, and each grid `10 ^ k` offers the two neighbours of the number.
-/

namespace Scaffold

/-- The number `digits * 10 ^ exponent`, or its negative. -/
structure Decimal where
  negative : Bool
  digits : Nat
  exponent : Int
deriving DecidableEq, Repr

namespace Decimal

/-- A positive number `middle / scale` and the interval of the reals that round to it.  The ends
belong to it when `closed` holds. -/
structure Rounding where
  low : Nat
  middle : Nat
  high : Nat
  scale : Nat
  closed : Bool

/-- The bit in front of the fraction of a number with 64 bits. -/
def leadingBit : Nat := 0x10000000000000

/-- The interval of `m * 2 ^ q`, where `m` is below `2 ^ 53`.  Below a power of two the neighbour
is half as far away as above it. -/
def Rounding.ofBinary (m : Nat) (q : Int) : Rounding :=
  let low := if m = leadingBit ∧ q > -1074 then 4 * m - 1 else 4 * m - 2
  let up := Nat.pow 2 (q - 2).toNat
  { low := low * up
    middle := 4 * m * up
    high := (4 * m + 2) * up
    scale := Nat.pow 2 (2 - q).toNat
    closed := m % 2 == 0 }

/-- Whether `c * 10 ^ k` rounds to the number. -/
def Rounding.accepts (r : Rounding) (c : Nat) (k : Int) : Bool :=
  let point := c * Nat.pow 10 k.toNat * r.scale
  let down := Nat.pow 10 (-k).toNat
  if r.closed then r.low * down ≤ point && point ≤ r.high * down
  else r.low * down < point && point < r.high * down

/-- The multiple of `10 ^ k` that is accepted and nearest to the number; of two equally near ones
the larger. -/
def Rounding.onGrid? (r : Rounding) (k : Int) : Option Nat :=
  let unit := Nat.pow 10 k.toNat * r.scale
  let value := r.middle * Nat.pow 10 (-k).toNat
  let below := value / unit
  match r.accepts below k, r.accepts (below + 1) k with
  | true, true => some (if 2 * (value % unit) < unit then below else below + 1)
  | true, false => some below
  | false, true => some (below + 1)
  | false, false => none

/-- How many zeros follow the point before the first digit of `middle / scale`, at most `fuel`. -/
def leadingZeros (middle scale : Nat) : Nat → Nat
  | 0 => 0
  | fuel + 1 => if middle * 10 < scale then leadingZeros (middle * 10) scale fuel + 1 else 0

/-- The least `p` with `middle / scale < 10 ^ p`. -/
def Rounding.magnitude (r : Rounding) : Int :=
  if r.scale ≤ r.middle then (Nat.toDigits 10 (r.middle / r.scale)).length
  else -(leadingZeros r.middle r.scale 400 : Int)

/-- Digits and exponent of the shortest decimal.  Seventeen digits always suffice. -/
def Rounding.shortest (r : Rounding) : Nat × Int :=
  let found := (List.range 17).findSome? fun i =>
    let k := r.magnitude - (i + 1 : Nat)
    (r.onGrid? k).map fun c => (c, k)
  match found with
  | some (c, k) => if c % 10 = 0 then (c / 10, k + 1) else (c, k)
  | none => (0, 0)

/-- The shortest decimal of a finite binary number with 64 bits. -/
def ofBits (bits : UInt64) : Decimal :=
  let word := bits.toNat
  let negative := word ≥ 0x8000000000000000
  let field : Nat := word / leadingBit % 0x800
  let fraction : Nat := word % leadingBit
  if field = 0 ∧ fraction = 0 then ⟨negative, 0, 0⟩
  else
    let (digits, exponent) := (if field = 0 then Rounding.ofBinary fraction (-1074)
      else Rounding.ofBinary (leadingBit + fraction) ((field : Int) - 1075)).shortest
    ⟨negative, digits, exponent⟩

def ofFloat (x : Float) : Decimal :=
  ofBits x.toBits

end Decimal

end Scaffold
