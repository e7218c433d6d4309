import ShaderGraph.Config.Expr
import ShaderGraph.Text.Quoted

/-!
# Conversion of values

A value is read at a type in three steps. Its own type has to fit, in all its parts; then texts are
read as numbers and truth values, and numbers written as text; then what is left has to be present and
in range.
-/
namespace ShaderGraph.Config

inductive Shape where
  | scalar (type : Scalar)
  | list (item : Shape)
deriving DecidableEq, Repr

def Scalar.name : Scalar → Text
  | .bool => "bool"
  | .number => "number"
  | .string => "string"

def Shape.name : Shape → Text
  | .scalar s => s.name
  | .list item => "list of " ++ item.name

/-- Whether every value or only some values of the second type convert to the first. -/
def Scalar.accepts : Scalar → Scalar → Bool
  | .string, _ => true
  | _, .string => true
  | s, t => s == t

inductive ConversionError where
  /-- Something of no list form stands for a list. -/
  | required (shape : Shape)
  | mismatch (shape : Shape) (given : Text)
  | element (index : Nat) (cause : ConversionError)
  /-- Text that is no truth value, with the truth value that it spells in other case. -/
  | notBool (spelled : Option Bool)
  | notNumber
  | null
  | unknown
  | outOfRange
deriving DecidableEq, Repr

def largestDouble : Nat := (Nat.pow 2 53 - 1) * Nat.pow 2 971

def ConversionError.message : ConversionError → Text
  | .required shape => shape.name ++ " required"
  | .mismatch shape given => shape.name ++ " required, but have " ++ given
  | .element i cause => "element " ++ Text.ofNat i ++ ": " ++ cause.message
  | .notBool none => "a bool is required"
  | .notBool (some b) =>
    "a bool is required; to convert from string, use lowercase " ++
      Text.quote (if b then "true" else "false")
  | .notNumber => "a number is required"
  | .null => "null value is not allowed"
  | .unknown => "value must be known"
  | .outOfRange =>
    let bound := Text.ofNat largestDouble ++ ".000000"
    "value must be between -" ++ bound ++ " and " ++ bound ++ " inclusive"

namespace Kind

def scalar? : Kind → Option Scalar
  | .scalar s => some s
  | _ => none

def name : Kind → Text
  | .dynamic => "dynamic"
  | .scalar s => s.name
  | .tuple _ => "tuple"
  | .object _ => "object"

def mismatch? : Shape → Kind → Option ConversionError
  | _, .dynamic => none
  | .scalar s, k => if k.scalar?.any s.accepts then none else some (.mismatch (.scalar s) k.name)
  | .list item, .tuple items =>
    items.zipIdx.findSome? fun (k, i) => (mismatch? item k).map (.element i)
  | .list item, .object _ => some (.required (.list item))
  | .list item, k => some (.mismatch (.list item) k.name)

end Kind

namespace Datum

mutual

def kind : Datum → Kind
  | .null => .dynamic
  | .unknown k => k
  | .bool _ => .scalar .bool
  | .number _ => .scalar .number
  | .string _ => .scalar .string
  | .tuple items => .tuple (itemKinds items)
  | .object fields => .object (fieldKinds fields)

def itemKinds : List Datum → List Kind
  | [] => []
  | d :: ds => d.kind :: itemKinds ds

def fieldKinds : List (Text × Datum) → List (Text × Kind)
  | [] => []
  | (name, d) :: fs => (name, d.kind) :: fieldKinds fs

end

def spelledBool? (s : Text) : Option Bool :=
  let lower := s.map fun b => if 0x41 ≤ b ∧ b ≤ 0x5a then b + 0x20 else b
  if lower = Text.ofString "true" then some true
  else if lower = Text.ofString "false" then some false
  else none

def readBool (s : Text) : Except ConversionError Datum :=
  if s = Text.ofString "true" ∨ s = Text.ofString "1" then .ok (.bool true)
  else if s = Text.ofString "false" ∨ s = Text.ofString "0" then .ok (.bool false)
  else .error (.notBool (spelledBool? s))

def readNumber (s : Text) : Except ConversionError Datum :=
  match Wide.parse? s with
  | some x => .ok (.number x)
  | none => .error .notNumber

def convertScalar : Scalar → Datum → Except ConversionError Datum
  | .bool, .string s => readBool s
  | .number, .string s => readNumber s
  | .string, .bool b => .ok (.string (if b then "true" else "false"))
  | .string, .number x => .ok (.string x.text)
  | _, d => .ok d

def convertAll : Shape → Datum → Except ConversionError Datum
  | .scalar s, d => convertScalar s d
  | .list item, .tuple items => do return .tuple (← items.mapM (convertAll item))
  | .list _, d => .ok d

def convert (shape : Shape) (d : Datum) : Except ConversionError Datum :=
  match Kind.mismatch? shape d.kind with
  | some e => .error e
  | none => convertAll shape d

def asBool : Datum → Except ConversionError Bool
  | .bool b => .ok b
  | .null => .error .null
  | _ => .error .unknown

def asText : Datum → Except ConversionError Text
  | .string s => .ok s
  | .null => .error .null
  | _ => .error .unknown

def asDouble : Datum → Except ConversionError Double
  | .number x =>
    match x.toDouble? with
    | some y => .ok y
    | none => .error .outOfRange
  | .null => .error .null
  | _ => .error .unknown

def asList {α : Type} (item : Datum → Except ConversionError α) :
    Datum → Except ConversionError (List α)
  | .tuple items => items.mapM item
  | .null => .ok []
  | _ => .error .unknown

def toBool (d : Datum) : Except ConversionError Bool := do
  (← d.convert (.scalar .bool)).asBool

def toText (d : Datum) : Except ConversionError Text := do
  (← d.convert (.scalar .string)).asText

def toDouble (d : Datum) : Except ConversionError Double := do
  (← d.convert (.scalar .number)).asDouble

def toDoubles (d : Datum) : Except ConversionError (List Double) := do
  (← d.convert (.list (.scalar .number))).asList asDouble

def toRows (d : Datum) : Except ConversionError (List (List Double)) := do
  (← d.convert (.list (.list (.scalar .number)))).asList (asList asDouble)

def toTexts (d : Datum) : Except ConversionError (List Text) := do
  (← d.convert (.list (.scalar .string))).asList asText

mutual

def isKnown : Datum → Bool
  | .unknown _ => false
  | .tuple items => allKnown items
  | .object fields => fieldsKnown fields
  | _ => true

def allKnown : List Datum → Bool
  | [] => true
  | d :: ds => d.isKnown && allKnown ds

def fieldsKnown : List (Text × Datum) → Bool
  | [] => true
  | (_, d) :: fs => d.isKnown && fieldsKnown fs

end

mutual

def equals : Datum → Datum → Bool
  | .null, .null => true
  | .bool a, .bool b => a == b
  | .number x, .number y => x.equals y
  | .string s, .string t => s == t
  | .tuple xs, .tuple ys => equalItems xs ys
  | .object xs, .object ys => equalFields xs ys
  | _, _ => false

def equalItems : List Datum → List Datum → Bool
  | [], [] => true
  | x :: xs, y :: ys => x.equals y && equalItems xs ys
  | _, _ => false

def equalFields : List (Text × Datum) → List (Text × Datum) → Bool
  | [], [] => true
  | (k, x) :: xs, (l, y) :: ys => k == l && x.equals y && equalFields xs ys
  | _, _ => false

end

end Datum
end ShaderGraph.Config
