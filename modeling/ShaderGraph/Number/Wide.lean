import ShaderGraph.Number.Binary
import ShaderGraph.Text.Basic

/-!
# Wide numbers

The numbers of a configuration are floating-point numbers with 512 bits of precision and a binary
exponent of 32 bits. Each operation gives the number nearest to its exact result, a half to even. A
result with too large an exponent is infinite, one with too small an exponent is zero.
-/
namespace ShaderGraph

/-- `mantissa × 2 ^ exponent` with a sign, or an infinity. Zero has a sign too. -/
inductive Wide where
  | finite (negative : Bool) (mantissa : Nat) (exponent : Int)
  | infinite (negative : Bool)
deriving DecidableEq, Repr

inductive ArithmeticError where
  | opposingInfinities
  | infinityMinusItself
  | zeroTimesInfinity
  | undefinedQuotient
  | undefinedRemainder
deriving DecidableEq, Repr

def ArithmeticError.message : ArithmeticError → Text
  | .opposingInfinities => "can't compute sum of opposing infinities"
  | .infinityMinusItself => "can't subtract infinity from itself"
  | .zeroTimesInfinity => "can't multiply zero by infinity"
  | .undefinedQuotient => "can't divide zero by zero or infinity by infinity"
  | .undefinedRemainder => "can't use modulo with zero and infinity"

namespace Wide

def precision : Nat := 512

def zero (negative : Bool) : Wide := .finite negative 0 0

/-- The least and the greatest `top` of a number, where a number with the given `top` is less than
`2 ^ top` and at least half of that. -/
def leastTop : Int := -2147483648

def greatestTop : Int := 2147483647

def topOf (mantissa : Nat) (exponent : Int) : Int := (mantissa.log2 : Int) + 1 + exponent

def round (bits : Nat) (negative : Bool) (num den : Nat) (exponent : Int) : Wide :=
  if num = 0 then zero negative
  else
    let log := floorLog2 num den
    let top := log + 1 + exponent
    if top < leastTop then zero negative
    else if greatestTop < top then .infinite negative
    else
      let e := log - (bits - 1 : Nat)
      let (n, d) := scaleRatio num den (-e)
      let q := roundDiv n d
      if q < Nat.pow 2 bits then .finite negative q (e + exponent)
      else if top = greatestTop then .infinite negative
      else .finite negative (Nat.pow 2 (bits - 1)) (e + 1 + exponent)

def ofScaled (negative : Bool) (mantissa : Nat) (exponent : Int) : Wide :=
  round precision negative mantissa 1 exponent

def ofNat (n : Nat) : Wide := ofScaled false n 0

def isNegative : Wide → Bool
  | .finite n _ _ | .infinite n => n

def isZero : Wide → Bool
  | .finite _ m _ => m == 0
  | .infinite _ => false

def negate : Wide → Wide
  | .finite n m e => .finite (!n) m e
  | .infinite n => .infinite (!n)

def scaledInt (negative : Bool) (m : Nat) (e common : Int) : Int :=
  let n : Int := (m * Nat.pow 2 (e - common).toNat : Nat)
  if negative then -n else n

/-- Whether numbers of these tops differ so much that the sum is nearest to the greater one: the other
is less than a quarter of its last place. -/
def isNegligible (small great : Int) : Bool := small + (precision + 2 : Nat) ≤ great

def addFinite (n₁ : Bool) (m₁ : Nat) (e₁ : Int) (n₂ : Bool) (m₂ : Nat) (e₂ : Int) : Wide :=
  if m₁ = 0 ∧ m₂ = 0 then zero (n₁ && n₂)
  else if m₂ = 0 ∨ (m₁ ≠ 0 ∧ isNegligible (topOf m₂ e₂) (topOf m₁ e₁)) then ofScaled n₁ m₁ e₁
  else if m₁ = 0 ∨ isNegligible (topOf m₁ e₁) (topOf m₂ e₂) then ofScaled n₂ m₂ e₂
  else
    let common := min e₁ e₂
    let sum := scaledInt n₁ m₁ e₁ common + scaledInt n₂ m₂ e₂ common
    ofScaled (sum < 0) sum.natAbs common

def add : Wide → Wide → Except ArithmeticError Wide
  | .infinite a, .infinite b => if a = b then .ok (.infinite a) else .error .opposingInfinities
  | .infinite a, _ => .ok (.infinite a)
  | _, .infinite b => .ok (.infinite b)
  | .finite n₁ m₁ e₁, .finite n₂ m₂ e₂ => .ok (addFinite n₁ m₁ e₁ n₂ m₂ e₂)

def subtract (x y : Wide) : Except ArithmeticError Wide :=
  (add x y.negate).mapError fun _ => .infinityMinusItself

def multiply : Wide → Wide → Except ArithmeticError Wide
  | .finite n₁ m₁ e₁, .finite n₂ m₂ e₂ => .ok (ofScaled (n₁ != n₂) (m₁ * m₂) (e₁ + e₂))
  | x, y =>
    if x.isZero || y.isZero then .error .zeroTimesInfinity
    else .ok (.infinite (x.isNegative != y.isNegative))

def divide : Wide → Wide → Except ArithmeticError Wide
  | .finite n₁ m₁ e₁, .finite n₂ m₂ e₂ =>
    if m₂ = 0 then (if m₁ = 0 then .error .undefinedQuotient else .ok (.infinite (n₁ != n₂)))
    else .ok (round precision (n₁ != n₂) m₁ m₂ (e₁ - e₂))
  | .infinite _, .infinite _ => .error .undefinedQuotient
  | .infinite a, y => .ok (.infinite (a != y.isNegative))
  | x, .infinite b => .ok (zero (x.isNegative != b))

/-- The integer part of a number, toward zero and without the sign of a zero. An infinite number has
none, and zero takes its place. -/
def whole : Wide → Wide
  | .infinite _ => zero false
  | .finite n m e =>
    if 0 ≤ e then .finite (n && m != 0) m e
    else if topOf m e ≤ 0 then zero false
    else ofScaled n (m / Nat.pow 2 (-e).toNat) 0

/-- What is left of `x` without the greatest whole multiple of `y` in it, which has the sign of `x`.
Modulo zero a number stays as it is, and so does an infinity. -/
def modulo (x y : Wide) : Except ArithmeticError Wide :=
  if y.isZero then .ok x
  else
    let rest : Except ArithmeticError Wide := do
      let quotient ← divide x y
      let multiple ← multiply y quotient.whole
      subtract x multiple
    rest.mapError fun _ => .undefinedRemainder

def magnitudeLess (m₁ : Nat) (e₁ : Int) (m₂ : Nat) (e₂ : Int) : Bool :=
  if m₁ = 0 ∨ m₂ = 0 then m₁ < m₂
  else if topOf m₁ e₁ ≠ topOf m₂ e₂ then topOf m₁ e₁ < topOf m₂ e₂
  else
    let common := min e₁ e₂
    scaledInt false m₁ e₁ common < scaledInt false m₂ e₂ common

def lessThan : Wide → Wide → Bool
  | .infinite a, .infinite b => a && !b
  | .infinite a, _ => a
  | _, .infinite b => !b
  | .finite n₁ m₁ e₁, .finite n₂ m₂ e₂ =>
    match n₁, n₂ with
    | false, false => magnitudeLess m₁ e₁ m₂ e₂
    | true, true => magnitudeLess m₂ e₂ m₁ e₁
    | true, false => m₁ != 0 || m₂ != 0
    | false, true => false

def equals (x y : Wide) : Bool := !lessThan x y && !lessThan y x

def toDouble? : Wide → Option Double
  | .infinite n => some (.infinite n)
  | .finite n m e =>
    if m = 0 ∨ topOf m e < -1100 then some (.ofRatio n 0 1)
    else if 1100 < topOf m e then none
    else
      let (num, den) := scaleRatio m 1 e
      let x : Double := .ofRatio n num den
      if x.isInfinite then none else some x

def toInt? : Wide → Option Int
  | .infinite _ => none
  | .finite n m e =>
    if m = 0 then some 0
    else if topOf m e ≤ 0 ∨ 64 < topOf m e then none
    else
      let (num, den) := scaleRatio m 1 e
      if num % den = 0 then some (if n then -(num / den : Nat) else (num / den : Nat)) else none

def isWhole : Wide → Bool
  | .infinite _ => false
  | .finite _ m e =>
    m = 0 || 0 ≤ e || (0 < topOf m e && m % Nat.pow 2 (-e).toNat = 0)

end Wide
end ShaderGraph
