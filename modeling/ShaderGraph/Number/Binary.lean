/-!
# Binary floating point

A number of a binary interchange format is a sign and a magnitude. The magnitude is the bit pattern
without the sign bit, read as a natural number: magnitudes grow with the absolute value, infinity
comes after the finite magnitudes, and everything above infinity is not a number. Arithmetic is done
on exact quotients of natural numbers, rounded once to the nearest magnitude, a half to the even one.
-/
namespace ShaderGraph

/-- The widths of the two fields of a binary interchange format below the sign bit. -/
structure Format where
  exponentBits : Nat
  fractionBits : Nat
deriving DecidableEq, Repr

namespace Format

def binary16 : Format := ⟨5, 10⟩
def binary32 : Format := ⟨8, 23⟩
def binary64 : Format := ⟨11, 52⟩

variable (f : Format)

def bias : Nat := Nat.pow 2 (f.exponentBits - 1) - 1

/-- Every finite value is a multiple of two to this power. -/
def quantum : Int := 1 - f.bias - f.fractionBits

def infinity : Nat := (Nat.pow 2 f.exponentBits - 1) * Nat.pow 2 f.fractionBits

def parts (magnitude : Nat) : Nat × Int :=
  let field := magnitude / Nat.pow 2 f.fractionBits
  let fraction := magnitude % Nat.pow 2 f.fractionBits
  if field = 0 then (fraction, f.quantum)
  else (Nat.pow 2 f.fractionBits + fraction, f.quantum + (field - 1 : Nat))

end Format

def roundDiv (num den : Nat) : Nat :=
  let q := num / den
  let r := num % den
  if den < 2 * r ∨ (den = 2 * r ∧ q % 2 = 1) then q + 1 else q

def scaleRatio (num den : Nat) (e : Int) : Nat × Nat :=
  if 0 ≤ e then (num * Nat.pow 2 e.toNat, den) else (num, den * Nat.pow 2 (-e).toNat)

def floorLog2 (num den : Nat) : Int :=
  let guess : Int := (Nat.log2 num : Int) - Nat.log2 den
  let (n, d) := scaleRatio num den (-guess)
  if d ≤ n then guess else guess - 1

namespace Format

variable (f : Format)

/-- The magnitude nearest to `num / den`, of two the even one. Beyond the greatest finite magnitude
this is infinity. -/
def nearest (num den : Nat) : Nat :=
  if num = 0 then 0
  else
    let e := max (floorLog2 num den - f.fractionBits) f.quantum
    let (n, d) := scaleRatio num den (-e)
    min f.infinity ((e - f.quantum).toNat * Nat.pow 2 f.fractionBits + roundDiv n d)

end Format

structure Binary (f : Format) where
  negative : Bool
  magnitude : Nat
deriving DecidableEq, Repr

abbrev Single := Binary .binary32
abbrev Double := Binary .binary64

namespace Binary

variable {f : Format}

def zero : Binary f := ⟨false, 0⟩
def nan : Binary f := ⟨false, f.infinity + Nat.pow 2 (f.fractionBits - 1)⟩
def infinite (negative : Bool) : Binary f := ⟨negative, f.infinity⟩

instance : Inhabited (Binary f) := ⟨zero⟩

def isNaN (x : Binary f) : Bool := f.infinity < x.magnitude
def isInfinite (x : Binary f) : Bool := x.magnitude == f.infinity
def isFinite (x : Binary f) : Bool := x.magnitude < f.infinity
def isZero (x : Binary f) : Bool := x.magnitude == 0

def toBits (x : Binary f) : Nat :=
  (if x.negative then Nat.pow 2 (f.exponentBits + f.fractionBits) else 0) + x.magnitude

def ofBits (bits : Nat) : Binary f :=
  let top := Nat.pow 2 (f.exponentBits + f.fractionBits)
  ⟨bits / top % 2 = 1, bits % top⟩

def ofRatio (negative : Bool) (num den : Nat) : Binary f := ⟨negative, f.nearest num den⟩

def ofInt (n : Int) : Binary f := ofRatio (n < 0) n.natAbs 1

def ratio (x : Binary f) : Nat × Nat :=
  let (m, e) := f.parts x.magnitude
  scaleRatio m 1 e

def equals (x y : Binary f) : Bool :=
  !x.isNaN && !y.isNaN && (x.magnitude == y.magnitude) && (x.negative == y.negative || x.isZero)

def key (x : Binary f) : Int := if x.negative then -(x.magnitude : Int) else x.magnitude

def lessThan (x y : Binary f) : Bool := !x.isNaN && !y.isNaN && x.key < y.key

def convert {f : Format} (g : Format) (x : Binary f) : Binary g :=
  if x.isNaN then nan
  else if x.isInfinite then infinite x.negative
  else
    let (num, den) := x.ratio
    ofRatio x.negative num den

def div (x y : Binary f) : Binary f :=
  let negative := x.negative != y.negative
  if x.isNaN || y.isNaN then nan
  else if x.isInfinite then (if y.isInfinite then nan else infinite negative)
  else if y.isInfinite then ⟨negative, 0⟩
  else if y.isZero then (if x.isZero then nan else infinite negative)
  else
    let (a, b) := x.ratio
    let (c, d) := y.ratio
    ofRatio negative (a * d) (b * c)

def toInt? (x : Binary f) : Option Int :=
  if x.isFinite then
    let (num, den) := x.ratio
    if num % den = 0 then some (if x.negative then -(num / den : Nat) else (num / den : Nat)) else none
  else none

def abs (x : Binary f) : Binary f := ⟨false, x.magnitude⟩

def withSign (negative : Bool) (x : Binary f) : Binary f := ⟨negative, x.magnitude⟩

def scale (x : Binary f) (e : Int) : Binary f :=
  if x.isFinite then
    let (num, den) := x.ratio
    let (n, d) := scaleRatio num den e
    ofRatio x.negative n d
  else x

def roundInteger (x : Binary f) : Binary f :=
  if x.isFinite then
    let (num, den) := x.ratio
    ofRatio x.negative (roundDiv num den) 1
  else x

def halfLimit : Single := ofInt 65520

def leastNormalHalf : Single := (ofInt 1).scale (-14)

/-- `x` rounded to half precision and held in single precision. Below the least normal half, halves are
the multiples of two to the power -24. From there on they are the singles whose last 13 bits are zero. -/
def roundHalf (x : Single) : Single :=
  if x.isNaN || x.isInfinite then x
  else if !x.abs.lessThan halfLimit then infinite x.negative
  else if x.abs.lessThan leastNormalHalf then
    let units := ((x.abs.convert .binary64).scale 24).roundInteger
    ((units.scale (-24)).convert .binary32).withSign x.negative
  else
    let bits := UInt32.ofNat x.toBits
    let odd := (bits >>> 13) &&& 1
    -- A carry out of the fraction goes on into the exponent.
    ofBits ((bits + (0xfff + odd)) &&& ~~~0x1fff).toNat

end Binary
end ShaderGraph
