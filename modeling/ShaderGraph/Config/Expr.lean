import ShaderGraph.Config.Token
import ShaderGraph.Number.WideText

/-!
# Expressions of a configuration

Expressions and the values they stand for. A file never gives variables or functions to its
expressions: references are resolved by whoever reads the file, and only where a whole expression is
one.
-/
namespace ShaderGraph.Config

inductive Scalar where
  | bool | number | string
deriving DecidableEq, Repr

inductive Kind where
  | dynamic
  | scalar (type : Scalar)
  | tuple (items : List Kind)
  | object (fields : List (Text × Kind))
deriving Repr

/-- A value of the configuration language. `unknown` is the value of an expression in error, of which
only the type is known. The fields of an object are sorted by their names, which are all different. -/
inductive Datum where
  | null
  | unknown (kind : Kind)
  | bool (b : Bool)
  | number (x : Wide)
  | string (s : Text)
  | tuple (items : List Datum)
  | object (fields : List (Text × Datum))
deriving Repr

inductive Step where
  | attribute (name : Text)
  | index (key : Datum)
deriving Repr

inductive UnaryOp where
  | negate | not
deriving DecidableEq, Repr

inductive BinaryOp where
  | or | and | equal | notEqual | greater | greaterEqual | less | lessEqual
  | add | subtract | multiply | divide | modulo
deriving DecidableEq, Repr

inductive Expr where
  | literal (value : Datum) (span : Span)
  | template (parts : List Expr) (span : Span)
  /-- Quotes around nothing but one interpolated expression. -/
  | wrapped (e : Expr) (span : Span)
  | variable (root : Text) (rootSpan : Span) (steps : List (Step × Span)) (span : Span)
  | relative (source : Expr) (steps : List (Step × Span)) (span : Span)
  | index (collection key : Expr) (opening brackets span : Span)
  /-- The value of `each` for every item of the source. -/
  | splat (source each : Expr) (marker span : Span)
  /-- The item that the innermost splat around is at. -/
  | item (span : Span)
  | call (start : Span) (args : List Expr) (span : Span)
  | tuple (items : List Expr) (opening span : Span)
  | object (keys values : List Expr) (opening span : Span)
  | parens (e : Expr) (span : Span)
  | unary (op : UnaryOp) (e : Expr) (symbol span : Span)
  | binary (op : BinaryOp) (left right : Expr) (span : Span)
deriving Repr

namespace Expr

def span : Expr → Span
  | .literal _ s | .template _ s | .wrapped _ s | .variable _ _ _ s | .relative _ _ s
  | .index _ _ _ _ s | .splat _ _ _ s | .item s | .call _ _ s | .tuple _ _ s | .object _ _ _ s
  | .parens _ s | .unary _ _ _ s | .binary _ _ _ s => s

def startSpan : Expr → Span
  | .literal _ s | .wrapped _ s | .variable _ _ _ s | .relative _ _ s | .item s => s
  | .template (part :: _) _ => part.startSpan
  | .template [] s => s
  | .index _ _ opening _ _ => opening
  | .splat _ _ marker _ => marker
  | .call start _ _ => start
  | .tuple _ opening _ => opening
  | .object _ _ opening _ => opening
  | .parens e _ => e.startSpan
  | .unary _ _ symbol _ => symbol
  | .binary _ left _ _ => left.startSpan

def step (e : Expr) (s : Step) (stepSpan : Span) : Expr :=
  match e with
  | .variable root rootSpan steps span =>
    .variable root rootSpan (steps ++ [(s, stepSpan)]) (span.to stepSpan)
  | .relative source steps span => .relative source (steps ++ [(s, stepSpan)]) (span.to stepSpan)
  | e => .relative e [(s, stepSpan)] (e.span.to stepSpan)

/-- The root and the steps of an expression that is a reference. The keywords are references too. -/
def reference? : Expr → Option (Text × List Step)
  | .variable root _ steps _ => some (root, steps.map (·.1))
  | .literal .null _ => some ("null", [])
  | .literal (.bool b) _ => some (if b then "true" else "false", [])
  | .relative source steps _ =>
    source.reference?.map fun (root, first) => (root, first ++ steps.map (·.1))
  | _ => none

end Expr

structure Attribute where
  name : Text
  nameSpan : Span
  expr : Expr
deriving Repr

mutual

inductive Block where
  | mk (type : Text) (typeSpan : Span) (labels : List (Text × Span)) (brace : Span) (body : Body)

inductive Body where
  | mk (attributes : List Attribute) (blocks : List Block) (start : Position)

end

namespace Block

def type : Block → Text
  | .mk type _ _ _ _ => type

def typeSpan : Block → Span
  | .mk _ typeSpan _ _ _ => typeSpan

def labels : Block → List (Text × Span)
  | .mk _ _ labels _ _ => labels

def brace : Block → Span
  | .mk _ _ _ brace _ => brace

def body : Block → Body
  | .mk _ _ _ _ body => body

end Block

namespace Body

def attributes : Body → List Attribute
  | .mk attributes _ _ => attributes

def blocks : Body → List Block
  | .mk _ blocks _ => blocks

def start : Body → Position
  | .mk _ _ start => start

def attribute? (b : Body) (name : Text) : Option Attribute := b.attributes.find? (·.name = name)

def missingSpan (b : Body) : Span := .empty b.start

end Body

end ShaderGraph.Config
