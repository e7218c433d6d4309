import ShaderGraph.Network.Build

/-!
# Standard nodes

Operations that add one node with the single output `out` and give the value of that output. Operands
that do not fit give a fault and add nothing.
-/
namespace ShaderGraph.Build

def slot (name : Text) (v : Value) : Input := ⟨name, v.type, v⟩

def operation (type : Text) (outType : TypeTag) (inputs : List Input) : Build Value := do
  let id ← newNode type inputs [⟨"out", outType⟩]
  output id "out"

def connected (inputs : List Input) : List Input := inputs.filter fun i => !i.value.isAbsent

inductive Arithmetic where
  | add | subtract | multiply | divide
deriving DecidableEq, Repr

def Arithmetic.name : Arithmetic → Text
  | .add => "add"
  | .subtract => "subtract"
  | .multiply => "multiply"
  | .divide => "divide"

def unsupported (name : Text) (a b : TypeTag) : Text :=
  name ++ ": unsupported operand types " ++ a.name ++ " and " ++ b.name

/-- Component by component arithmetic. The second operand may be a float where the first is a color or
a vector of floats. -/
def arithmetic (op : Arithmetic) (a b : Value) : Build Value :=
  let nodeType := "ND_" ++ op.name ++ "_" ++ a.type.nodeSuffix
  let slots := [slot "in1" a, slot "in2" b]
  if a.isAbsent || b.isAbsent then
    return .ofFault a.type (op.name ++ ": missing operand")
  else if a.type = b.type && a.type.isArithmetic then operation nodeType a.type slots
  else if b.type = DataType.scalarFloat && a.type.isFloatVector then
    operation (nodeType ++ "FA") a.type slots
  else return .ofFault a.type (unsupported op.name a.type b.type)

def add : Value → Value → Build Value := arithmetic .add
def subtract : Value → Value → Build Value := arithmetic .subtract
def multiply : Value → Value → Build Value := arithmetic .multiply
def divide : Value → Value → Build Value := arithmetic .divide

def mix (fg bg amount : Value) : Build Value :=
  if fg.isAbsent || bg.isAbsent || amount.isAbsent then
    return .ofFault fg.type "mix: missing operand"
  else if fg.type ≠ bg.type || !fg.type.isArithmetic then
    return .ofFault fg.type (unsupported "mix" fg.type bg.type)
  else if amount.type ≠ DataType.scalarFloat then
    return .ofFault fg.type ("mix: mix amount must be float, got " ++ amount.type.name)
  else
    operation ("ND_mix_" ++ fg.type.nodeSuffix) fg.type
      [slot "fg" fg, slot "bg" bg, slot "mix" amount]

def isPlainVector (t : TypeTag) : Bool :=
  match t.dataType? with
  | some (.float l) => l != .one
  | _ => false

def dot (a b : Value) : Build Value :=
  if isPlainVector a.type && a.type = b.type then
    operation ("ND_dotproduct_" ++ a.type.nodeSuffix) DataType.scalarFloat
      [slot "in1" a, slot "in2" b]
  else return .ofFault DataType.scalarFloat (unsupported "dot" a.type b.type)

def sin (a : Value) : Build Value :=
  if a.type ≠ DataType.scalarFloat && !a.type.isFloatVector then
    return .ofFault a.type ("sin: unsupported operand type " ++ a.type.name)
  else operation ("ND_sin_" ++ a.type.nodeSuffix) a.type [slot "in" a]

def time : Build Value := operation "ND_time_float" DataType.scalarFloat []

def texcoord : Build Value := operation "ND_texcoord_vector2" (DataType.float .two) []

def isSampled (t : TypeTag) : Bool :=
  match t.dataType? with
  | some (.float _) | some (.color _) => true
  | _ => false

def image (file uv : Value) (outType : TypeTag) : Build Value :=
  if !isSampled outType then
    return .ofFault outType ("image: unsupported output type " ++ outType.name)
  else if file.type ≠ DataType.asset then
    return .ofFault outType ("image: file must be an asset, got " ++ file.type.name)
  else
    operation ("ND_image_" ++ outType.nodeSuffix) outType
      (slot "file" file :: connected [⟨"texcoord", DataType.float .two, uv⟩])

structure PbrInputs where
  baseColor : Value := .absent
  emissiveColor : Value := .absent
  normal : Value := .absent
  roughness : Value := .absent
  metallic : Value := .absent
  ambientOcclusion : Value := .absent
  specular : Value := .absent
  opacity : Value := .absent
  opacityThreshold : Value := .absent
  clearcoat : Value := .absent
  clearcoatRoughness : Value := .absent

def PbrInputs.slots (i : PbrInputs) : List Input :=
  [⟨"baseColor", DataType.color3, i.baseColor⟩,
   ⟨"emissiveColor", DataType.color3, i.emissiveColor⟩,
   ⟨"normal", DataType.float .three, i.normal⟩,
   ⟨"roughness", DataType.scalarFloat, i.roughness⟩,
   ⟨"metallic", DataType.scalarFloat, i.metallic⟩,
   ⟨"ambientOcclusion", DataType.scalarFloat, i.ambientOcclusion⟩,
   ⟨"specular", DataType.scalarFloat, i.specular⟩,
   ⟨"opacity", DataType.scalarFloat, i.opacity⟩,
   ⟨"opacityThreshold", DataType.scalarFloat, i.opacityThreshold⟩,
   ⟨"clearcoat", DataType.scalarFloat, i.clearcoat⟩,
   ⟨"clearcoatRoughness", DataType.scalarFloat, i.clearcoatRoughness⟩]

def pbrSurface (i : PbrInputs) : Build Value :=
  operation "ND_realitykit_pbr_surfaceshader" DataType.token (connected i.slots)

def unlitSurface (color opacity : Value) : Build Value :=
  operation "ND_realitykit_unlit_surfaceshader" DataType.token
    (⟨"color", DataType.color3, color⟩ :: connected [⟨"opacity", DataType.scalarFloat, opacity⟩])

structure ModifierInputs where
  modelPositionOffset : Value := .absent
  normal : Value := .absent
  color : Value := .absent
  uv0 : Value := .absent

def ModifierInputs.slots (i : ModifierInputs) : List Input :=
  [⟨"modelPositionOffset", DataType.float .three, i.modelPositionOffset⟩,
   ⟨"normal", DataType.float .three, i.normal⟩,
   ⟨"color", DataType.color4, i.color⟩,
   ⟨"uv0", DataType.float .two, i.uv0⟩]

def geometryModifier (i : ModifierInputs) : Build Value :=
  operation "ND_realitykit_geometrymodifier_vertexshader" DataType.token (connected i.slots)

end ShaderGraph.Build
