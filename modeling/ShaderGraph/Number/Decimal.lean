import ShaderGraph.Number.Binary
import ShaderGraph.Text.Basic

/-!
# Shortest decimals

`shortest` gives the decimal with the fewest digits that rounds to a given number, and of those with
the fewest digits the nearest one. `NumberLayout` says how such a decimal is written out.
-/
namespace ShaderGraph

/-- The decimal fraction `0.d₁d₂… × 10 ^ point` with the digits of `coefficient`. -/
structure Decimal where
  coefficient : Nat
  point : Int
deriving DecidableEq, Repr

namespace Decimal

def scaleTen (num den : Nat) (e : Int) : Nat × Nat :=
  if 0 ≤ e then (num * Nat.pow 10 e.toNat, den) else (num, den * Nat.pow 10 (-e).toNat)

def pointOf (num den : Nat) : Int :=
  if den ≤ num then (Nat.toDigits 10 (num / den)).length
  else
    let limit := (Nat.toDigits 10 den).length + 1
    match (List.range limit).find? (fun j => den ≤ num * Nat.pow 10 j) with
    | some j => 1 - (j : Int)
    | none => 1 - (limit : Int)

def stripZeros : Nat → Nat → Nat
  | 0, n => n
  | fuel + 1, n => if n ≠ 0 ∧ n % 10 = 0 then stripZeros fuel (n / 10) else n

/-- The interval of the reals that round to a number: its ends in units of a quarter of the gap
above the number, and whether they belong to it. -/
structure Interval where
  low : Nat
  mid : Nat
  high : Nat
  closed : Bool

def interval (f : Format) (m : Nat) (e : Int) : Interval :=
  let narrow := m = Nat.pow 2 f.fractionBits ∧ f.quantum < e
  ⟨4 * m - (if narrow then 1 else 2), 4 * m, 4 * m + 2, m % 2 = 0⟩

/-- The nearest decimal on the grid of `count` digits that lies inside the interval, for a value with
the given point. Ends and value are over the common denominator `den` after scaling by `unit`. -/
def onGrid? (iv : Interval) (e : Int) (point : Int) (count : Nat) : Option Nat :=
  let shift := (count : Int) - point
  let scaled (x : Nat) : Nat × Nat :=
    let (n, d) := scaleRatio x 4 e
    scaleTen n d shift
  let (n, d) := scaled iv.mid
  let (lo, _) := scaled iv.low
  let (hi, _) := scaled iv.high
  let down := n / d
  let up := down + 1
  let downOk := if iv.closed then lo ≤ down * d else lo < down * d
  let upOk := if iv.closed then up * d ≤ hi else up * d < hi
  if downOk then
    if upOk then some (roundDiv n d) else some down
  else if upOk then some up else none

/-- The shortest decimal that rounds to the positive finite magnitude. Seventeen digits are always
enough for the formats in use. -/
def shortest (f : Format) (magnitude : Nat) : Decimal :=
  let (m, e) := f.parts magnitude
  let (num, den) := scaleRatio m 1 e
  let point := pointOf num den
  let iv := interval f m e
  match (List.range' 1 17).findSome? (fun count => (onGrid? iv e point count).map (count, ·)) with
  | some (count, c) =>
    -- Rounding up can carry into one more digit.
    if c = Nat.pow 10 count then ⟨1, point + 1⟩ else ⟨stripZeros count c, point⟩
  | none => ⟨num / den, point⟩

end Decimal

structure NumberLayout where
  /-- The least exponent that is written in positional notation. -/
  leastPositional : Int
  /-- The first exponent above that needs an exponent mark again. -/
  firstScientific : Int
  exponentDigits : Nat
  notANumber : Text
  plusInfinity : Text
  minusInfinity : Text

namespace NumberLayout

def positional (digits : Text) (point : Int) : Text :=
  if point ≤ 0 then 0x30 :: 0x2e :: (List.replicate (-point).toNat 0x30 ++ digits)
  else
    let n := point.toNat
    if digits.length ≤ n then digits ++ List.replicate (n - digits.length) 0x30
    else digits.take n ++ 0x2e :: digits.drop n

def scientific (exponentDigits : Nat) (digits : Text) (exponent : Int) : Text :=
  let mantissa := match digits with
    | [] => []
    | [d] => [d]
    | d :: ds => d :: 0x2e :: ds
  let size := Text.ofNat exponent.natAbs
  mantissa ++ 0x65 :: (if exponent < 0 then 0x2d else 0x2b) ::
    (List.replicate (exponentDigits - size.length) 0x30 ++ size)

def decimal (layout : NumberLayout) (d : Decimal) : Text :=
  let digits := Text.ofNat d.coefficient
  let exponent := d.point - 1
  if exponent < layout.leastPositional ∨ layout.firstScientific ≤ exponent then
    scientific layout.exponentDigits digits exponent
  else positional digits d.point

def text {f : Format} (layout : NumberLayout) (x : Binary f) : Text :=
  if x.isNaN then layout.notANumber
  else if x.isInfinite then (if x.negative then layout.minusInfinity else layout.plusInfinity)
  else
    let unsigned := if x.isZero then [0x30] else layout.decimal (Decimal.shortest f x.magnitude)
    if x.negative then 0x2d :: unsigned else unsigned

end NumberLayout
end ShaderGraph
