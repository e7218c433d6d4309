import ShaderGraph.Number.Decimal
import ShaderGraph.Number.Numeral
import ShaderGraph.Number.Wide

/-!
# Wide numbers as text

`Wide.text` writes a number in full, with the fewest digits that read back. `Wide.parse?` reads
decimal numerals whose power of ten may be anything that 32 bits of binary exponent allow.
-/
namespace ShaderGraph.Wide

/-- The digits after which the decimals of a wide number are closer than its neighbours. -/
def enoughDigits : Nat := 160

/-- The least `point` with `m × 2 ^ e < 10 ^ point`, for positive `m`. The first guess is the binary
exponent times the logarithm of two. -/
def pointOf (m : Nat) (e : Int) : Int :=
  let guess := (topOf m e - 1) * 30102999566398119521 / 100000000000000000000
  let (n, d) := scaleRatio m 1 e
  let below (i : Nat) : Bool :=
    let (n, d) := Decimal.scaleTen n d (-(guess + i))
    n < d
  match (List.range 3).find? below with
  | some i => guess + i
  | none => guess + 3

/-- The shortest decimal that rounds to a positive finite number, written out in full. The ends of the
interval of the reals that round to it belong to it if the mantissa is even. -/
def magnitudeText (m : Nat) (e : Int) : Text :=
  let point := pointOf m e
  let scaled (quarters : Nat) : Nat × Nat :=
    let (n, d) := scaleRatio quarters 4 e
    Decimal.scaleTen n d (enoughDigits - point)
  let (n, d) := scaled (4 * m)
  let (low, _) := scaled (4 * m - 2)
  let (high, _) := scaled (4 * m + 2)
  let least := if m % 2 = 0 then (low + d - 1) / d else low / d + 1
  let greatest := if m % 2 = 0 then high / d else (high + d - 1) / d - 1
  let onGrid? (count : Nat) : Option (Nat × Nat) :=
    let unit := Nat.pow 10 (enoughDigits - count)
    let down := n / d / unit
    let downOk : Bool := least ≤ down * unit
    let upOk : Bool := (down + 1) * unit ≤ greatest
    if downOk && upOk then some (count, roundDiv n (d * unit))
    else if downOk then some (count, down)
    else if upOk then some (count, down + 1)
    else none
  match (List.range' 1 enoughDigits).findSome? onGrid? with
  | some (count, c) =>
    if c = Nat.pow 10 count then NumberLayout.positional (Text.ofNat 1) (point + 1)
    else NumberLayout.positional (Text.ofNat (Decimal.stripZeros count c)) point
  | none => NumberLayout.positional (Text.ofNat (n / d)) point

def text : Wide → Text
  | .infinite n => if n then "-Inf" else "+Inf"
  | .finite n m e =>
    let unsigned := if m = 0 then Text.ofNat 0 else magnitudeText m e
    if n then 0x2d :: unsigned else unsigned

def multiplyAt (bits : Nat) : Wide → Wide → Wide
  | .finite _ m₁ e₁, .finite _ m₂ e₂ => round bits false (m₁ * m₂) 1 (e₁ + e₂)
  | _, _ => .infinite false

/-- `product × base ^ n` for positive numbers, by squaring the base. There are enough bits to spare
that the errors of all steps together do not reach the last place of a wide number. -/
def timesPower (product base : Wide) (n : Nat) : Wide :=
  if n = 0 then product
  else
    let product := if n % 2 = 1 then multiplyAt (precision + 64) product base else product
    timesPower product (multiplyAt (precision + 128) base base) (n / 2)
termination_by n
decreasing_by omega

/-- Five to the power `n`. The powers of less than sixty-four bits are exact, and the last of them is
where the squaring starts. -/
def powerOfFive (n : Nat) : Wide :=
  let start := min n 27
  timesPower (ofNat (Nat.pow 5 start)) (ofNat 5) (n - start)

def exponentLimit : Nat := Nat.pow 2 63

/-- The number `coefficient × 2 ^ twos × 5 ^ fives`. There is none if the powers of two alone take it
out of bounds. -/
def ofPowers? (negative : Bool) (coefficient : Nat) (twos fives : Int) : Option Wide :=
  if coefficient = 0 then some (zero negative)
  else
    let top := topOf coefficient twos
    if top < leastTop ∨ greatestTop < top then none
    else match powerOfFive fives.natAbs, decide (0 ≤ fives) with
      | .finite _ m e, true => some (round precision negative (coefficient * m) 1 (twos + e))
      | .finite _ m e, false => some (round precision negative coefficient m (twos - e))
      | .infinite _, true => some (.infinite negative)
      | .infinite _, false => some (zero negative)

def parse? (t : Text) : Option Wide :=
  let (negative, body) := Numeral.takeSign t
  let inBounds (exponent : Int) : Bool :=
    -(exponentLimit : Int) ≤ exponent && exponent < (exponentLimit : Int)
  if body = Text.ofString "Inf" ∨ body = Text.ofString "inf" then some (.infinite negative)
  else
    match Numeral.readParts? 10 Numeral.decimalDigit? 0x65 false body with
    | some p =>
      let e := p.exponent - p.places
      if inBounds p.exponent then ofPowers? negative p.coefficient e e else none
    | none =>
      match Numeral.readParts? 10 Numeral.decimalDigit? 0x70 true body with
      | some p =>
        if inBounds p.exponent then
          ofPowers? negative p.coefficient (p.exponent - p.places) (-(p.places : Int))
        else none
      | none => none

end ShaderGraph.Wide
