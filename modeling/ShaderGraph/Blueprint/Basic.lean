import ShaderGraph.Config.Eval

/-!
# Blueprints

A blueprint is a description of a shading network by named declarations: parameters of the material
interface, node graphs, nodes and materials. Values are literals or references to other declarations,
and nodes may be declared in any order.
-/
namespace ShaderGraph.Blueprint

open Config (Expr Span)

/-- What every declaration has beside its meaning: the place where something missing is reported, and
the items in it that mean nothing. -/
structure Extra where
  span : Span
  unsupported : List Config.Problem

structure Parameter where
  name : Text
  type : Text
  default : Option Expr
  colorSpace : Text
  texture : Text
  extra : Extra

structure GraphInput where
  name : Text
  type : Text
  default : Option Expr
  colorSpace : Text
  extra : Extra

structure GraphOutput where
  name : Text
  value : Option Expr
  type : Text
  span : Span

structure Input where
  name : Text
  type : Text
  value : Option Expr
  colorSpace : Text
  extra : Extra

structure Output where
  name : Text
  type : Text

/-- A shader node if `type` is set, an instance of a node graph if `graph` is set. -/
structure Node where
  name : Text
  type : Text
  graph : Text
  inputs : List Input
  outputs : List Output
  extra : Extra

structure Graph where
  name : Text
  inputs : List GraphInput
  nodes : List Node
  outputs : List GraphOutput
  extra : Extra

structure Material where
  name : Text
  surface : Option Expr
  geometryModifier : Option Expr
  /-- The names of the graphs to define beside the material, all graphs if it is left out. -/
  nodeGraphs : Option Expr
  extra : Extra

end ShaderGraph.Blueprint

namespace ShaderGraph

structure Blueprint where
  parameters : List Blueprint.Parameter
  graphs : List Blueprint.Graph
  nodes : List Blueprint.Node
  materials : List Blueprint.Material

end ShaderGraph
