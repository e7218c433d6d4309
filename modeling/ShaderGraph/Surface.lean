import ShaderGraph.Network.Operations

/-!
# Ready-made graphs, surfaces and modifiers

Small shading networks built from the standard nodes. Bad settings are reported before anything is
added to the network.
-/
namespace ShaderGraph.Surface

open Build

inductive Problem where
  | emptyTintName
  | graphTaken (name : Text)
  | albedoMissing
  | roughnessRange
  | metallicRange
  | tintType (type : TypeTag)
  | bobPeriod
  | bobAmplitude
deriving DecidableEq, Repr

def Problem.message : Problem → Text
  | .emptyTintName => "empty tint graph name"
  | .graphTaken name => "node graph " ++ name ++ " already defined"
  | .albedoMissing => "nil albedo texture"
  | .roughnessRange => "roughness outside [0, 1]"
  | .metallicRange => "metallic outside [0, 1]"
  | .tintType type => "tint must be color3f, got " ++ type.name
  | .bobPeriod => "bob period must be positive and finite"
  | .bobAmplitude => "zero bob amplitude"

def linearSpace : Text := "lin_srgb"

def white : Constant := .color .rgb (.replicate _ Constant.one) linearSpace

def tint (name : Text) : Build (Except Problem GraphId) := do
  let net ← get
  if name.isEmpty then return .error .emptyTintName
  if (net.findGraph? name).isSome then return .error (.graphTaken name)
  let g ← newGraph name
  let color ← graphInputDefault g "color" white
  let amount ← graphInputDefault g "amount" (.scalar Constant.one)
  graphOutput g "out" (← multiply color amount)
  return .ok g

/-- An instance of a tint graph. Where `color` or `amount` is absent the graph's default stays. -/
def tinted (graph : GraphId) (color amount : Value) : Build Value := do
  let id ← reference graph
    (connected [⟨"color", DataType.color3, color⟩, ⟨"amount", DataType.scalarFloat, amount⟩])
  output id "out"

structure Textured where
  albedo : Option TextureSource
  /-- The name of the texture's parameter, `albedo` if it is empty. -/
  albedoName : Text
  /-- A color to multiply with, if it is not absent. -/
  tint : Value
  roughness : Single
  metallic : Single

def outsideUnit (x : Single) : Bool := x.lessThan .zero || Constant.one.lessThan x

def Textured.problem? (k : Textured) : Option Problem :=
  if k.albedo.isNone then some .albedoMissing
  else if outsideUnit k.roughness then some .roughnessRange
  else if outsideUnit k.metallic then some .metallicRange
  else if !k.tint.isAbsent && k.tint.type ≠ DataType.color3 then some (.tintType k.tint.type)
  else none

def textured (k : Textured) : Build (Except Problem Value) :=
  match k.problem? with
  | some p => return .error p
  | none => do
    let name : Text := if k.albedoName.isEmpty then "albedo" else k.albedoName
    let sampled ← image (.ofTexture name k.albedo) .absent DataType.color3
    let color ← if k.tint.isAbsent then pure sampled else multiply sampled k.tint
    let surface ← pbrSurface
      { baseColor := color
        roughness := .ofParameter "roughness" (.scalar k.roughness)
        metallic := .ofParameter "metallic" (.scalar k.metallic) }
    return .ok surface

/-- A full turn in single precision. -/
def turn : Single := .ofBits 0x40c90fdb

def bob (amplitude period : Single) : Build (Except Problem Value) :=
  if !Binary.zero.lessThan period || period.isInfinite then return .error .bobPeriod
  else if amplitude.isZero then return .error .bobAmplitude
  else do
    let phase ← multiply (← time) (.ofConstant (.scalar (turn.div period)))
    let wave ← sin phase
    let offset ← multiply (.ofConstant (.vec3 .zero amplitude .zero)) wave
    let modifier ← geometryModifier { modelPositionOffset := offset }
    return .ok modifier

end ShaderGraph.Surface
