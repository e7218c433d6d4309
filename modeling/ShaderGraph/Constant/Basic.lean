import ShaderGraph.DataType
import ShaderGraph.Number.Binary
import ShaderGraph.Number.Decimal
import ShaderGraph.Texture

/-!
# Constants

A constant is a literal value of one data type. `Constant.ofComponents` builds the numeric ones from
numbers in double precision, `Constant.components` lists them again in single precision, and `agrees`
is the equality that decides whether two defaults of a parameter conflict.
-/
namespace ShaderGraph

/-- A literal value of a data type. Components of halves are held in single precision. Matrices are
row by row. -/
inductive Constant where
  | bool (value : Bool)
  | int (lanes : Lanes) (value : Vector Int32 lanes.count)
  | half (lanes : Lanes) (value : Vector Single lanes.count)
  | float (lanes : Lanes) (value : Vector Single lanes.count)
  | string (value : Text)
  | token (value : Text)
  | asset (source : Option TextureSource)
  | color (channels : Channels) (value : Vector Single channels.count) (space : Text)
  | matrix (order : Order) (value : Vector Single (order.count * order.count))
deriving DecidableEq, Repr

def NumberLayout.message : NumberLayout := ⟨-4, 6, 2, "NaN", "+Inf", "-Inf"⟩

namespace Constant

def dataType : Constant → DataType
  | .bool _ => .bool
  | .int l _ => .int l
  | .half l _ => .half l
  | .float l _ => .float l
  | .string _ => .string
  | .token _ => .token
  | .asset _ => .asset
  | .color c _ _ => .color c
  | .matrix o _ => .matrix o

def one : Single := .ofInt 1

def identity (n : Nat) : Vector Single (n * n) :=
  Vector.ofFn fun i => if i.val / n = i.val % n then one else .zero

def defaultOf : DataType → Constant
  | .bool => .bool false
  | .int l => .int l (.replicate l.count 0)
  | .half l => .half l (.replicate l.count .zero)
  | .float l => .float l (.replicate l.count .zero)
  | .string => .string []
  | .token => .token []
  | .asset => .asset none
  | .color c => .color c (.replicate c.count .zero) []
  | .matrix o => .matrix o (identity o.count)

def components : Constant → List Single
  | .bool b => [if b then one else .zero]
  | .int _ v => v.toList.map fun n => .ofInt n.toInt
  | .half _ v | .float _ v => v.toList
  | .color _ v _ => v.toList
  | .matrix _ v => v.toList
  | .string _ | .token _ | .asset _ => []

def withColorSpace (space : Text) : Constant → Constant
  | .color c v _ => .color c v space
  | c => c

def source? : Constant → Option TextureSource
  | .asset s => s
  | _ => none

inductive ComponentError where
  | notNumeric (type : TypeTag)
  | count (type : DataType) (given : Nat)
  | notInteger (type : DataType) (index : Nat) (value : Double)
deriving DecidableEq, Repr

def ComponentError.message : ComponentError → Text
  | .notNumeric t => t.name ++ " is not a numeric data type"
  | .count t given =>
    t.name ++ " requires " ++ Text.ofNat t.components ++ " components, got " ++ Text.ofNat given
  | .notInteger t i x =>
    t.name ++ " component " ++ Text.ofNat i ++ ": " ++ NumberLayout.message.text x ++
      " is not a 32-bit integer"

def int32? (x : Double) : Option Int32 :=
  match x.toInt? with
  | some n => if -2147483648 ≤ n ∧ n < 2147483648 then some (.ofInt n) else none
  | none => none

def integers (t : DataType) : Nat → List Double → Except ComponentError (List Int32)
  | _, [] => .ok []
  | i, x :: xs =>
    match int32? x with
    | none => .error (.notInteger t i x)
    | some n => (integers t (i + 1) xs).map (n :: ·)

def vector? {α : Type} (n : Nat) (xs : List α) : Option (Vector α n) :=
  if h : xs.length = n then some ⟨xs.toArray, by simpa using h⟩ else none

def single (x : Double) : Single := x.convert .binary32

/-- The half nearest to the single that is nearest to `x`. -/
def halfOf (x : Double) : Single := (single x).roundHalf

def ofVector (t : DataType) (xs : List Double) : Except ComponentError Constant :=
  let wrong : Except ComponentError Constant := .error (.count t xs.length)
  match t with
  | .bool => match xs with
    | [x] => .ok (.bool (!x.isZero))
    | _ => wrong
  | .int l => match vector? l.count xs with
    | none => wrong
    | some _ => do
      match vector? l.count (← integers (.int l) 0 xs) with
      | some v => return .int l v
      | none => wrong
  | .half l => match vector? l.count xs with
    | some v => .ok (.half l (v.map halfOf))
    | none => wrong
  | .float l => match vector? l.count xs with
    | some v => .ok (.float l (v.map single))
    | none => wrong
  | .color c => match vector? c.count xs with
    | some v => .ok (.color c (v.map single) [])
    | none => wrong
  | .matrix o => match vector? (o.count * o.count) xs with
    | some v => .ok (.matrix o (v.map single))
    | none => wrong
  | .string | .token | .asset => .error (.notNumeric t)

def ofComponents (t : TypeTag) (xs : List Double) : Except ComponentError Constant :=
  match t.dataType? with
  | none => .error (.notNumeric t)
  | some d => ofVector d xs

def equalComponents (xs ys : List Single) : Bool :=
  xs.length == ys.length && (xs.zip ys).all fun (x, y) => x.equals y

/-- Equality of constants as values: of one type, with equal text, source, integers, color space and
numerically equal components. -/
def agrees : Constant → Constant → Bool
  | .bool a, .bool b => a == b
  | .int l v, .int m w => l == m && v.toList == w.toList
  | .half l v, .half m w => l == m && equalComponents v.toList w.toList
  | .float l v, .float m w => l == m && equalComponents v.toList w.toList
  | .string s, .string t => s == t
  | .token s, .token t => s == t
  | .asset s, .asset t => s == t
  | .color c v s, .color d w t => c == d && equalComponents v.toList w.toList && s == t
  | .matrix o v, .matrix p w => o == p && equalComponents v.toList w.toList
  | _, _ => false

def agree? : Option Constant → Option Constant → Bool
  | none, none => true
  | some a, some b => a.agrees b
  | _, _ => false

def describe : Constant → Text
  | .string s | .token s => Text.quote s
  | .int _ v => "[" ++ Text.join " " (v.toList.map fun n => Text.ofInt n.toInt) ++ "]"
  | .asset none => "<empty texture>"
  | .asset (some s) => "<texture " ++ s.label ++ ">"
  | c => "[" ++ Text.join " " (c.components.map NumberLayout.message.text) ++ "]"

def scalar (x : Single) : Constant := .float .one #v[x]
def rgb (r g b : Single) : Constant := .color .rgb #v[r, g, b] []
def rgba (r g b a : Single) : Constant := .color .rgba #v[r, g, b, a] []
def vec2 (x y : Single) : Constant := .float .two #v[x, y]
def vec3 (x y z : Single) : Constant := .float .three #v[x, y, z]

end Constant
end ShaderGraph
