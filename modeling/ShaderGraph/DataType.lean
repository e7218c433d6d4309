import ShaderGraph.Text.Basic
import ShaderGraph.Text.Quoted

/-!
# Data types

The closed set of types of the values that flow through a shader graph. A slot carries a `TypeTag`,
an eight-bit code: code zero is the undefined type, the codes from one on name the data types in
declaration order, and the codes after the last one name nothing.
-/
namespace ShaderGraph

inductive Lanes where
  | one | two | three | four
deriving DecidableEq, Repr

inductive Order where
  | two | three | four
deriving DecidableEq, Repr

inductive Channels where
  | rgb | rgba
deriving DecidableEq, Repr

namespace Lanes

def count : Lanes → Nat
  | .one => 1
  | .two => 2
  | .three => 3
  | .four => 4

def mark : Lanes → Text
  | .one => []
  | l => Text.ofNat l.count

end Lanes

def Order.count : Order → Nat
  | .two => 2
  | .three => 3
  | .four => 4

def Channels.count : Channels → Nat
  | .rgb => 3
  | .rgba => 4

inductive DataType where
  | bool
  | int (lanes : Lanes)
  | half (lanes : Lanes)
  | float (lanes : Lanes)
  | string
  | token
  | asset
  | color (channels : Channels)
  | matrix (order : Order)
deriving DecidableEq, Repr

namespace DataType

abbrev scalarInt : DataType := .int .one
abbrev scalarFloat : DataType := .float .one
abbrev color3 : DataType := .color .rgb
abbrev color4 : DataType := .color .rgba

def all : List DataType :=
  [.bool, .int .one, .half .one, .float .one, .string, .token, .asset, .color .rgb, .color .rgba,
   .float .two, .float .three, .float .four, .half .two, .half .three, .half .four,
   .int .two, .int .three, .int .four, .matrix .two, .matrix .three, .matrix .four]

def name : DataType → Text
  | .bool => "bool"
  | .int l => "int" ++ l.mark
  | .half l => "half" ++ l.mark
  | .float l => "float" ++ l.mark
  | .string => "string"
  | .token => "token"
  | .asset => "asset"
  | .color c => "color" ++ Text.ofNat c.count ++ "f"
  | .matrix o => "matrix" ++ Text.ofNat o.count ++ "d"

def ofName? (s : Text) : Option DataType := all.find? (·.name = s)

def components : DataType → Nat
  | .bool => 1
  | .int l | .half l | .float l => l.count
  | .string | .token | .asset => 0
  | .color c => c.count
  | .matrix o => o.count * o.count

def isColor : DataType → Bool
  | .color _ => true
  | _ => false

def isMatrix : DataType → Bool
  | .matrix _ => true
  | _ => false

def isScalar : DataType → Bool
  | .int .one | .half .one | .float .one => true
  | _ => false

def isInteger : DataType → Bool
  | .int _ => true
  | _ => false

def isFloatVector : DataType → Bool
  | .color _ => true
  | .float l | .half l => l != .one
  | _ => false

/-- Whether the arithmetic nodes exist for the type. -/
def isArithmetic : DataType → Bool
  | .int _ | .half _ | .float _ | .color _ | .matrix _ => true
  | .bool | .string | .token | .asset => false

def nodeSuffix : DataType → Text
  | .bool => "boolean"
  | .int l => "integer" ++ l.mark
  | .half .one | .float .one => "float"
  | .half l | .float l => "vector" ++ l.mark
  | .string | .token => "string"
  | .asset => "filename"
  | .color c => "color" ++ Text.ofNat c.count
  | .matrix o => "matrix" ++ Text.ofNat o.count ++ Text.ofNat o.count

end DataType

structure TypeTag where
  code : UInt8
deriving DecidableEq, Repr

namespace TypeTag

def undefined : TypeTag := ⟨0⟩

instance : Inhabited TypeTag := ⟨undefined⟩

def ofDataType (t : DataType) : TypeTag := ⟨(DataType.all.idxOf t + 1).toUInt8⟩

instance : Coe DataType TypeTag := ⟨ofDataType⟩

/-- The data type with this code, `none` for the undefined type and the codes after the last one. -/
def dataType? (t : TypeTag) : Option DataType :=
  match t.code.toNat with
  | 0 => none
  | n + 1 => DataType.all[n]?

theorem dataType?_ofDataType (t : DataType) : (ofDataType t).dataType? = some t := by
  cases t with
  | int l | half l | float l => cases l <;> decide
  | color c => cases c <;> decide
  | matrix o => cases o <;> decide
  | _ => decide

def isValid (t : TypeTag) : Bool := t.dataType?.isSome

theorem isValid_ofDataType (t : DataType) : (ofDataType t).isValid = true := by
  rw [isValid, dataType?_ofDataType]
  rfl

def name (t : TypeTag) : Text :=
  match t.dataType? with
  | some d => d.name
  | none => if t.code = 0 then "<undefined>" else "<DataType(" ++ Text.ofNat t.code.toNat ++ ")>"

def components (t : TypeTag) : Nat := (t.dataType?.map DataType.components).getD 0
def isColor (t : TypeTag) : Bool := t.dataType?.any DataType.isColor
def isMatrix (t : TypeTag) : Bool := t.dataType?.any DataType.isMatrix
def isScalar (t : TypeTag) : Bool := t.dataType?.any DataType.isScalar
def isFloatVector (t : TypeTag) : Bool := t.dataType?.any DataType.isFloatVector
def isArithmetic (t : TypeTag) : Bool := t.dataType?.any DataType.isArithmetic

def nodeSuffix (t : TypeTag) : Text := (t.dataType?.map DataType.nodeSuffix).getD t.name

end TypeTag

structure UnknownType where
  name : Text

def UnknownType.message (e : UnknownType) : Text := "unknown data type " ++ Text.quote e.name

def DataType.parse (s : Text) : Except UnknownType DataType :=
  match DataType.ofName? s with
  | some t => .ok t
  | none => .error ⟨s⟩

end ShaderGraph
