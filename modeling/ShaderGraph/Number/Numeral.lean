import ShaderGraph.Number.Binary
import ShaderGraph.Text.Basic

/-!
# Numerals

Readers for integers and floating-point numbers in text form. A floating-point numeral is rounded
once, from its exact value to the format that is asked for.
-/
namespace ShaderGraph.Numeral

inductive Problem where
  | malformed
  | outOfRange
deriving DecidableEq, Repr

def isDigit (b : UInt8) : Bool := 0x30 ≤ b && b ≤ 0x39

def digitValue (b : UInt8) : Nat := b.toNat - 0x30

def lower (b : UInt8) : UInt8 := if 0x41 ≤ b ∧ b ≤ 0x5a then b + 0x20 else b

def takeSign : Text → Bool × Text
  | 0x2b :: t => (false, t)
  | 0x2d :: t => (true, t)
  | t => (false, t)

/-- Reads decimal digits into `n`. A digit that takes the value past `limit` is reported before any
later character that is not a digit. -/
def readNat (limit : Nat) : Nat → Text → Except Problem Nat
  | n, [] => .ok n
  | n, b :: t =>
    if !isDigit b then .error .malformed
    else
      let n' := n * 10 + digitValue b
      if limit < n' then .error .outOfRange else readNat limit n' t

def readInt (bits : Nat) (t : Text) : Except Problem Int := do
  let (negative, digits) := takeSign t
  if digits.isEmpty then throw .malformed
  let n ← readNat (Nat.pow 2 bits - 1) 0 digits
  let half := Nat.pow 2 (bits - 1)
  if negative then
    if half < n then throw .outOfRange else return -(n : Int)
  else
    if half ≤ n then throw .outOfRange else return n

inductive Before where
  | start | digit | underscore | other
deriving DecidableEq

def underscoresFrom (hex : Bool) : Before → Text → Bool
  | saw, [] => saw != .underscore
  | saw, b :: t =>
    if isDigit b || (hex && 0x61 ≤ lower b && lower b ≤ 0x66) then underscoresFrom hex .digit t
    else if b = 0x5f then saw == .digit && underscoresFrom hex .underscore t
    else saw != .underscore && underscoresFrom hex .other t

/-- Whether every underscore of a numeral stands between two digits, where a base mark such as `0x`
counts as a digit. -/
def underscoresOk (t : Text) : Bool :=
  let (_, body) := takeSign t
  match body with
  | 0x30 :: m :: rest =>
    if lower m = 0x62 ∨ lower m = 0x6f ∨ lower m = 0x78 then
      underscoresFrom (lower m == 0x78) .digit rest
    else underscoresFrom false .start body
  | _ => underscoresFrom false .start body

def hexDigit? (b : UInt8) : Option Nat :=
  if isDigit b then some (digitValue b)
  else if 0x61 ≤ lower b ∧ lower b ≤ 0x66 then some ((lower b).toNat - 0x61 + 10)
  else none

/-- The base of a numeral by its mark, and the digits behind the mark. A leading zero alone is the
mark of base eight. -/
def splitBase : Text → Nat × Text
  | 0x30 :: m :: d :: rest =>
    if lower m = 0x62 then (2, d :: rest)
    else if lower m = 0x6f then (8, d :: rest)
    else if lower m = 0x78 then (16, d :: rest)
    else (8, m :: d :: rest)
  | 0x30 :: rest => (8, rest)
  | t => (10, t)

def baseDigit? (base : Nat) (b : UInt8) : Option Nat :=
  let value :=
    if isDigit b then digitValue b
    else if 0x61 ≤ lower b ∧ lower b ≤ 0x7a then (lower b).toNat - 0x61 + 10
    else base
  if value < base then some value else none

def readBase (base limit : Nat) : Nat → Text → Except Problem Nat
  | n, [] => .ok n
  | n, b :: t =>
    if b = 0x5f then readBase base limit n t
    else match baseDigit? base b with
      | none => .error .malformed
      | some d =>
        let n' := n * base + d
        if limit < n' then .error .outOfRange else readBase base limit n' t

def readAnyBase (bits : Nat) (t : Text) : Except Problem Int := do
  let (negative, body) := takeSign t
  if body.isEmpty then throw .malformed
  let (base, digits) := splitBase body
  let n ← readBase base (Nat.pow 2 bits - 1) 0 digits
  if body.contains 0x5f && !underscoresOk body then throw .malformed
  let half := Nat.pow 2 (bits - 1)
  if negative then
    if half < n then throw .outOfRange else return -(n : Int)
  else
    if half ≤ n then throw .outOfRange else return n

def takeDigits (value? : UInt8 → Option Nat) : Text → List Nat × Text
  | [] => ([], [])
  | b :: t =>
    match value? b with
    | none => ([], b :: t)
    | some d =>
      let (ds, rest) := takeDigits value? t
      (d :: ds, rest)

def decimalDigit? (b : UInt8) : Option Nat := if isDigit b then some (digitValue b) else none

def ofDigits (base : Nat) (ds : List Nat) : Nat := ds.foldl (fun acc d => acc * base + d) 0

def readExponent? (t : Text) : Option Int :=
  let (negative, digits) := takeSign t
  match takeDigits decimalDigit? digits with
  | (d :: ds, []) =>
    let n := ofDigits 10 (d :: ds)
    some (if negative then -(n : Int) else n)
  | _ => none

/-- A numeral as digits and exponents: `coefficient × base ^ -places × radix ^ exponent`. -/
structure Parsed where
  coefficient : Nat
  places : Nat
  exponent : Int

def readParts? (base : Nat) (value? : UInt8 → Option Nat) (mark : UInt8) (needed : Bool) (t : Text) :
    Option Parsed :=
  let (whole, rest) := takeDigits value? t
  let (fraction, rest) := match rest with
    | 0x2e :: rest => takeDigits value? rest
    | _ => ([], rest)
  if whole.isEmpty && fraction.isEmpty then none
  else
    let coefficient := ofDigits base (whole ++ fraction)
    match rest with
    | [] => if needed then none else some ⟨coefficient, fraction.length, 0⟩
    | b :: rest =>
      if lower b = mark then (readExponent? rest).map (⟨coefficient, fraction.length, ·⟩) else none

def special? {f : Format} (t : Text) : Option (Binary f) :=
  let (negative, body) := takeSign t
  let name := body.map lower
  if name = Text.ofString "inf" ∨ name = Text.ofString "infinity" then some (.infinite negative)
  else if t.map lower = Text.ofString "nan" then some .nan
  else none

/-- The exponent within bounds beyond which every number is zero or too large. -/
def clampExponent (e : Int) : Int := max (-99999) (min 99999 e)

def bounded (f : Format) (negative : Bool) (num den : Nat) : Except Problem (Binary f) :=
  let x : Binary f := .ofRatio negative num den
  if x.isInfinite then .error .outOfRange else .ok x

def readBinary (f : Format) (t : Text) : Except Problem (Binary f) :=
  match special? t with
  | some x => .ok x
  | none =>
    if !underscoresOk t then .error .malformed
    else
      let (negative, body) := takeSign (t.filter (· ≠ 0x5f))
      let hex : Bool := match body with
        | 0x30 :: m :: _ :: _ => lower m == 0x78
        | _ => false
      if hex then
        match readParts? 16 hexDigit? 0x70 true (body.drop 2) with
        | none => .error .malformed
        | some p =>
          let (num, den) := scaleRatio p.coefficient 1 (clampExponent p.exponent - 4 * p.places)
          bounded f negative num den
      else
        match readParts? 10 decimalDigit? 0x65 false body with
        | none => .error .malformed
        | some p =>
          let e := clampExponent p.exponent - p.places
          if 0 ≤ e then bounded f negative (p.coefficient * Nat.pow 10 e.toNat) 1
          else bounded f negative p.coefficient (Nat.pow 10 (-e).toNat)

end ShaderGraph.Numeral
