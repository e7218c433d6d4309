import ShaderGraph.Blueprint.Basic
import ShaderGraph.Constant.Basic
import ShaderGraph.Network.Basic

/-!
# Faults of a blueprint

Everything for which a blueprint is refused, each with its wording.
-/
namespace ShaderGraph.Blueprint

open Config (ConversionError Span)

inductive Place where
  | topLevel
  | graph (name : Text)
deriving DecidableEq, Repr

def Place.describe : Place → Text
  | .topLevel => "the file's top level"
  | .graph name => "node graph " ++ name

inductive ValueError where
  | null
  | unknown
  | asset
  | conversion (cause : ConversionError)
  | rows (cause : ConversionError)
  | rowCount (expected given : Nat)
  | rowLength (row expected given : Nat)
  | numbers (expected : Nat) (cause : ConversionError)
  | components (cause : Constant.ComponentError)
deriving DecidableEq, Repr

def ValueError.message : ValueError → Text
  | .null => "value must not be null"
  | .unknown => "value must be known"
  | .asset => "textures are bound through asset parameters"
  | .conversion cause => cause.message
  | .rows cause => "expected list of rows: " ++ cause.message
  | .rowCount expected given =>
    "expected " ++ Text.ofNat expected ++ " rows, got " ++ Text.ofNat given
  | .rowLength row expected given =>
    "row " ++ Text.ofNat row ++ ": expected " ++ Text.ofNat expected ++ " components, got " ++
      Text.ofNat given
  | .numbers expected cause =>
    "expected list of " ++ Text.ofNat expected ++ " numbers: " ++ cause.message
  | .components cause => cause.message

inductive Fault where
  | config (fault : Config.Fault)
  | materialName
  | materialTaken (name : Text)
  | parameterTaken (name : Text)
  | parameterType (name : Text) (cause : UnknownType)
  | assetDefault (name : Text)
  | unexpectedTexture (name : Text) (type : DataType)
  | colorSpaceUnknown (name : Text)
  | colorSpaceUnused (type : DataType)
  | value (type : DataType) (cause : ValueError)
  | graphName
  | graphTaken (name : Text)
  | graphInputTaken (graph input : Text)
  | graphInputType (graph input : Text) (cause : UnknownType)
  | graphOutputTaken (graph output : Text)
  | graphOutputType (graph output : Text) (cause : UnknownType)
  | graphOutputMismatch (graph output : Text) (declared : DataType) (given : TypeTag)
  | graphUnlisted (material graph : Text)
  | nodeTaken (name : Text) (place : Place)
  | cycle (name : Text) (place : Place)
  | nodeAmbiguous (name : Text)
  | nodeUntyped (name : Text)
  | nodeReserved (name : Text)
  | inputTaken (node input : Text)
  | inputType (node input : Text) (cause : UnknownType)
  | outputTaken (node output : Text)
  | outputType (node output : Text) (cause : UnknownType)
  | graphUndeclared (node graph : Text)
  | graphRecursive (node graph : Text)
  | outputUnexpected (node graph : Text)
  | graphInputUnknown (graph input : Text)
  | inputMismatch (graph input : Text) (declared : TypeTag) (given : Text)
  | literalUntyped
  | materialOutput (argument : Text)
  | referenceForm
  | referenceRoot (root : Text)
  | parameterInGraph (graph parameter : Text)
  | parameterUnknown (name : Text)
  | graphInputOutside (name : Text)
  | nodeUnknown (name : Text) (place : Place)
  | nodeOutputAmbiguous (node : Text) (count : Nat)
  | nodeOutputUnknown (node output : Text)
  | unreadable (cause : Text)

namespace Fault

def summary : Fault → Text
  | .config fault => fault.summary
  | .materialName => "Invalid material name"
  | .materialTaken _ => "Duplicate material"
  | .parameterTaken _ => "Duplicate parameter"
  | .parameterType _ _ => "Invalid parameter type"
  | .assetDefault _ => "Invalid asset default"
  | .unexpectedTexture _ _ => "Unexpected texture"
  | .colorSpaceUnknown _ | .colorSpaceUnused _ => "Invalid color space"
  | .value _ _ => "Invalid value"
  | .graphName => "Invalid node graph name"
  | .graphTaken _ => "Duplicate node graph"
  | .graphInputTaken _ _ => "Duplicate graph input"
  | .graphInputType _ _ _ => "Invalid graph input type"
  | .graphOutputTaken _ _ => "Duplicate graph output"
  | .graphOutputType _ _ _ => "Invalid graph output type"
  | .graphOutputMismatch _ _ _ _ => "Graph output type mismatch"
  | .graphUnlisted _ _ | .graphUndeclared _ _ => "Unknown node graph"
  | .nodeTaken _ _ => "Duplicate node"
  | .cycle _ _ => "Reference cycle"
  | .nodeAmbiguous _ => "Ambiguous node"
  | .nodeUntyped _ => "Missing node type"
  | .nodeReserved _ => "Reserved node type"
  | .inputTaken _ _ => "Duplicate input"
  | .inputType _ _ _ => "Invalid input type"
  | .outputTaken _ _ => "Duplicate output"
  | .outputType _ _ _ => "Invalid output type"
  | .graphRecursive _ _ => "Recursive node graph"
  | .outputUnexpected _ _ => "Unexpected output"
  | .graphInputUnknown _ _ => "Unknown graph input"
  | .inputMismatch _ _ _ _ => "Input type mismatch"
  | .literalUntyped => "Untyped literal"
  | .materialOutput _ => "Invalid material output"
  | .referenceForm | .referenceRoot _ => "Invalid reference"
  | .parameterInGraph _ _ => "Parameter inside node graph"
  | .parameterUnknown _ => "Unknown parameter"
  | .graphInputOutside _ => "Graph input outside node graph"
  | .nodeUnknown _ _ => "Unknown node"
  | .nodeOutputAmbiguous _ _ => "Ambiguous node output"
  | .nodeOutputUnknown _ _ => "Unknown node output"
  | .unreadable _ => "Failed to read file"

def detail : Fault → Text
  | .config fault => fault.detail
  | .materialName => "material names must not be empty"
  | .materialTaken name => "material " ++ Text.quote name ++ " is declared more than once"
  | .parameterTaken name => "parameter " ++ Text.quote name ++ " is declared more than once"
  | .parameterType name cause => "parameter " ++ Text.quote name ++ ": " ++ cause.message
  | .assetDefault name =>
    "asset parameter " ++ Text.quote name ++ " binds its file through the texture attribute"
  | .unexpectedTexture name type =>
    "parameter " ++ Text.quote name ++ " of type " ++ type.name ++ " can not bind a texture"
  | .colorSpaceUnknown name => "unknown color space " ++ Text.quote name
  | .colorSpaceUnused type => "color space given for non-color type " ++ type.name
  | .value type cause => type.name ++ " value: " ++ cause.message
  | .graphName => "node graph names must not be empty"
  | .graphTaken name => "node graph " ++ Text.quote name ++ " is declared more than once"
  | .graphInputTaken graph input =>
    "node graph " ++ Text.quote graph ++ " declares input " ++ Text.quote input ++ " more than once"
  | .graphInputType graph input cause =>
    "node graph " ++ Text.quote graph ++ " input " ++ Text.quote input ++ ": " ++ cause.message
  | .graphOutputTaken graph output =>
    "node graph " ++ Text.quote graph ++ " declares output " ++ Text.quote output ++
      " more than once"
  | .graphOutputType graph output cause =>
    "node graph " ++ Text.quote graph ++ " output " ++ Text.quote output ++ ": " ++ cause.message
  | .graphOutputMismatch graph output declared given =>
    "node graph " ++ Text.quote graph ++ " output " ++ Text.quote output ++ " is declared " ++
      declared.name ++ " but its value is " ++ given.name
  | .graphUnlisted material graph =>
    "material " ++ Text.quote material ++ " lists undeclared node graph " ++ Text.quote graph
  | .nodeTaken name place =>
    "node " ++ Text.quote name ++ " is declared more than once in " ++ place.describe
  | .cycle name place =>
    "node " ++ Text.quote name ++ " in " ++ place.describe ++ " depends on its own output"
  | .nodeAmbiguous name => "node " ++ Text.quote name ++ " sets both type and graph"
  | .nodeUntyped name => "node " ++ Text.quote name ++ " must set type or graph"
  | .nodeReserved name =>
    "node " ++ Text.quote name ++ ": use the graph attribute to instantiate node graphs"
  | .inputTaken node input =>
    "node " ++ Text.quote node ++ " declares input " ++ Text.quote input ++ " more than once"
  | .inputType node input cause =>
    "node " ++ Text.quote node ++ " input " ++ Text.quote input ++ ": " ++ cause.message
  | .outputTaken node output =>
    "node " ++ Text.quote node ++ " declares output " ++ Text.quote output ++ " more than once"
  | .outputType node output cause =>
    "node " ++ Text.quote node ++ " output " ++ Text.quote output ++ ": " ++ cause.message
  | .graphUndeclared node graph =>
    "node " ++ Text.quote node ++ " instantiates undeclared node graph " ++ Text.quote graph ++
      "; node graphs must be declared before the nodes instantiating them"
  | .graphRecursive node graph =>
    "node " ++ Text.quote node ++ " instantiates its own node graph " ++ Text.quote graph
  | .outputUnexpected node graph =>
    "node " ++ Text.quote node ++ " instantiates node graph " ++ Text.quote graph ++
      " and takes its outputs from it"
  | .graphInputUnknown graph input =>
    "node graph " ++ Text.quote graph ++ " has no input " ++ Text.quote input
  | .inputMismatch graph input declared given =>
    "node graph " ++ Text.quote graph ++ " input " ++ Text.quote input ++ " is of type " ++
      declared.name ++ ", got " ++ Text.quote given
  | .literalUntyped => "a literal needs a declared type to be converted"
  | .materialOutput argument => argument ++ " must reference a node output"
  | .referenceForm =>
    "expected node.<name>, node.<name>.<output>, param.<name> or input.<name>"
  | .referenceRoot root =>
    "unknown reference root " ++ Text.quote root ++ "; expected node, param or input"
  | .parameterInGraph graph parameter =>
    "node graph " ++ Text.quote graph ++ " can not read material parameter " ++
      Text.quote parameter ++ "; declare a graph input instead"
  | .parameterUnknown name => "no parameter named " ++ Text.quote name ++ " is declared"
  | .graphInputOutside name => "input." ++ name ++ " can only be read inside a node graph"
  | .nodeUnknown name place => "no node " ++ Text.quote name ++ " in " ++ place.describe
  | .nodeOutputAmbiguous node count =>
    "node " ++ Text.quote node ++ " has " ++ Text.ofNat count ++ " outputs; name one with node." ++
      node ++ ".<output>"
  | .nodeOutputUnknown node output =>
    "node " ++ Text.quote node ++ " has no output " ++ Text.quote output
  | .unreadable cause => cause

end Fault

structure Diagnostic where
  fault : Fault
  subject : Option Span

def Diagnostic.ofProblem (p : Config.Problem) : Diagnostic := ⟨.config p.fault, some p.subject⟩

end ShaderGraph.Blueprint
