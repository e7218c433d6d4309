import ShaderGraph.Config.Part
import ShaderGraph.Text.Quoted

/-!
# Evaluation of expressions

The value of an expression without variables and functions, with everything that is wrong with it.
An expression in error still has a value, an unknown one, so that several problems of one file can be
reported together.
-/
namespace ShaderGraph.Config

inductive OperationError where
  | arithmetic (cause : ArithmeticError)
  | nullArgument
deriving DecidableEq, Repr

def OperationError.message : OperationError → Text
  | .arithmetic cause => cause.message
  | .nullArgument => "argument must not be null"

inductive Side where
  | left | right | only
deriving DecidableEq, Repr

def Side.name : Side → Text
  | .left => "left operand"
  | .right => "right operand"
  | .only => "unary operand"

inductive Hint where
  | none
  | name (similar : Text)
  | block
  | argument
deriving DecidableEq, Repr

inductive Fault where
  | variable
  | call
  | operand (side : Side) (cause : ConversionError)
  | operation (cause : OperationError)
  | nullPart
  | part (cause : ConversionError)
  | step (cause : StepError)
  | ambiguousKey
  | nullKey
  | key (cause : ConversionError)
  | unsuitable (cause : ConversionError)
  | missingArgument (name : Text)
  | unsupportedArgument (name : Text) (hint : Hint)
  | unsupportedBlock (type : Text) (hint : Hint)
  | missingLabel (block : Text)
  | extraLabel (block : Text)
deriving DecidableEq, Repr

def Hint.message (name : Text) : Hint → Text
  | .none => []
  | .name similar => " Did you mean " ++ Text.quote similar ++ "?"
  | .block => " Did you mean to define a block of type " ++ Text.quote name ++ "?"
  | .argument =>
    " Did you mean to define argument " ++ Text.quote name ++
      "? If so, use the equals sign to assign it a value."

namespace Fault

def summary : Fault → Text
  | .variable => "Variables not allowed"
  | .call => "Function calls not allowed"
  | .operand _ _ => "Invalid operand"
  | .operation _ => "Operation failed"
  | .nullPart | .part _ => "Invalid template interpolation value"
  | .step cause => cause.summary
  | .ambiguousKey => "Ambiguous attribute key"
  | .nullKey => "Null value as key"
  | .key _ => "Incorrect key type"
  | .unsuitable _ => "Unsuitable value type"
  | .missingArgument _ => "Missing required argument"
  | .unsupportedArgument _ _ => "Unsupported argument"
  | .unsupportedBlock _ _ => "Unsupported block type"
  | .missingLabel block => "Missing name for " ++ block
  | .extraLabel block => "Extraneous label for " ++ block

def detail : Fault → Text
  | .variable => "Variables may not be used here."
  | .call => "Functions may not be called here."
  | .operand side cause =>
    "Unsuitable value for " ++ side.name ++ ": " ++ cause.message ++ "."
  | .operation cause => "Error during operation: " ++ cause.message ++ "."
  | .nullPart =>
    "The expression result is null. Cannot include a null value in a string template."
  | .part cause =>
    "Cannot include the given value in a string template: " ++ cause.message ++ "."
  | .step cause => cause.detail
  | .ambiguousKey =>
    "If this expression is intended to be a reference, wrap it in parentheses. If it's instead " ++
      "intended as a literal name containing periods, wrap it in quotes to create a string literal."
  | .nullKey => "Can't use a null value as a key."
  | .key cause => "Can't use this value as a key: " ++ cause.message ++ "."
  | .unsuitable cause => "Unsuitable value: " ++ cause.message
  | .missingArgument name =>
    "The argument " ++ Text.quote name ++ " is required, but no definition was found."
  | .unsupportedArgument name hint =>
    "An argument named " ++ Text.quote name ++ " is not expected here." ++ hint.message name
  | .unsupportedBlock type hint =>
    "Blocks of type " ++ Text.quote type ++ " are not expected here." ++ hint.message type
  | .missingLabel block => "All " ++ block ++ " blocks must have 1 labels (name)."
  | .extraLabel block => "Only 1 labels (name) are expected for " ++ block ++ " blocks."

end Fault

structure Problem where
  fault : Fault
  subject : Span
deriving DecidableEq, Repr

structure Evaluation where
  value : Datum
  problems : List Problem

def UnaryOp.type : UnaryOp → Scalar
  | .negate => .number
  | .not => .bool

def BinaryOp.operandType? : BinaryOp → Option Scalar
  | .or | .and => some .bool
  | .equal | .notEqual => none
  | _ => some .number

def BinaryOp.type : BinaryOp → Scalar
  | .add | .subtract | .multiply | .divide | .modulo => .number
  | _ => .bool

def UnaryOp.apply : UnaryOp → Datum → Except OperationError Datum
  | .negate, .number x => .ok (.number x.negate)
  | .not, .bool b => .ok (.bool !b)
  | _, .null => .error .nullArgument
  | op, _ => .ok (.unknown (.scalar op.type))

def BinaryOp.arithmetic (op : BinaryOp) (x y : Wide) : Except OperationError Datum :=
  let result (r : Except ArithmeticError Wide) : Except OperationError Datum :=
    match r with
    | .ok z => .ok (.number z)
    | .error e => .error (.arithmetic e)
  match op with
  | .add => result (x.add y)
  | .subtract => result (x.subtract y)
  | .multiply => result (x.multiply y)
  | .divide => result (x.divide y)
  | .modulo => result (x.modulo y)
  | .less => .ok (.bool (x.lessThan y))
  | .lessEqual => .ok (.bool !(y.lessThan x))
  | .greater => .ok (.bool (y.lessThan x))
  | .greaterEqual => .ok (.bool !(x.lessThan y))
  | op => .ok (.unknown (.scalar op.type))

def BinaryOp.apply (op : BinaryOp) (x y : Datum) : Except OperationError Datum :=
  match op with
  | .equal | .notEqual =>
    if x.isKnown && y.isKnown then .ok (.bool (x.equals y == (op == .equal)))
    else .ok (.unknown (.scalar .bool))
  | _ =>
    match x, y with
    | .null, _ | _, .null => .error .nullArgument
    | .bool a, .bool b => .ok (.bool (if op = .or then a || b else a && b))
    | .number x, .number y => op.arithmetic x y
    | _, _ => .ok (.unknown (.scalar op.type))

def operand (side : Side) (type? : Option Scalar) (e : Expr) (d : Datum) : Datum × List Problem :=
  match type? with
  | none => (d, [])
  | some type =>
    match d.convert (.scalar type) with
    | .ok v => (v, [])
    | .error cause => (d, [⟨.operand side cause, e.span⟩])

def applied (type : Scalar) (span : Span) (problems : List Problem)
    (result : Except OperationError Datum) : Evaluation :=
  if !problems.isEmpty then ⟨.unknown (.scalar type), problems⟩
  else match result with
    | .ok v => ⟨v, []⟩
    | .error cause => ⟨.unknown (.scalar type), [⟨.operation cause, span⟩]⟩

structure Joined where
  text : Text
  isKnown : Bool
  problems : List Problem

/-- Adds a part. Nothing is added after the first problem, and a part that is not known leaves the
whole unknown. -/
def Joined.add (joined : Joined) (part : Expr) (e : Evaluation) : Joined :=
  let problems := joined.problems ++ e.problems
  match e.value with
  | .null => { joined with problems := problems ++ [⟨.nullPart, part.span⟩] }
  | .unknown _ => { joined with isKnown := false, problems := problems }
  | d =>
    match d.convert (.scalar .string) with
    | .ok (.string s) =>
      let text := if problems.isEmpty then joined.text ++ s else joined.text
      { joined with text := text, problems := problems }
    | .ok _ => { joined with problems := problems }
    | .error cause => { joined with problems := problems ++ [⟨.part cause, part.span⟩] }

def joinParts (parts : List Expr) (evaluations : List Evaluation) : Evaluation :=
  let joined : Joined :=
    (parts.zip evaluations).foldl (fun acc (part, e) => acc.add part e) ⟨[], true, []⟩
  if joined.isKnown then ⟨.string (Text.composed joined.text), joined.problems⟩
  else ⟨.unknown (.scalar .string), joined.problems⟩

def follow (d : Datum) : List (Step × Span) → Evaluation
  | [] => ⟨d, []⟩
  | (s, span) :: steps =>
    match d.step s with
    | .ok part => follow part steps
    | .error cause => ⟨.unknown .dynamic, [⟨.step cause, span⟩]⟩

/-- The value of a key of an object. A single word names itself, and several are not taken for a
reference. -/
def keyOf (key : Expr) (e : Evaluation) : Evaluation :=
  match key, key.reference? with
  | .variable _ _ (_ :: _) span, _ => ⟨.unknown (.scalar .string), [⟨.ambiguousKey, span⟩]⟩
  | _, some (name, []) => ⟨.string (Text.composed name), []⟩
  | _, _ => e

def fieldOf (key value : Expr) (k v : Evaluation) : Option (Text × Datum) × List Problem :=
  let problems := k.problems ++ v.problems
  if !k.problems.isEmpty then (none, problems)
  else match k.value with
    | .null => (none, problems ++ [⟨.nullKey, value.span⟩])
    | d =>
      match d.convert (.scalar .string) with
      | .ok (.string name) => (some (name, v.value), problems)
      | .ok _ => (none, problems)
      | .error cause => (none, problems ++ [⟨.key cause, key.span⟩])

def joinFields (fields : List (Option (Text × Datum) × List Problem)) : Evaluation :=
  let problems := fields.flatMap (·.2)
  match fields.mapM (·.1) with
  | some fs => ⟨Datum.ofFields fs, problems⟩
  | none => ⟨.unknown .dynamic, problems⟩

/-- The values of an expression for each item. If one is in error, only their types are known, and
those are the types for unknown items. -/
def spread (each : Datum → Evaluation) (items : List Datum) : Evaluation :=
  let es := items.map each
  let problems := es.flatMap (·.problems)
  if problems.isEmpty then ⟨.tuple (es.map (·.value)), []⟩
  else
    let kinds := items.map fun d => (each (.unknown d.kind)).value.kind
    ⟨.unknown (.tuple kinds), problems⟩

/-- A splat over a value. What is no tuple counts as a tuple of one item, and null as the empty one.
The result for an unknown value that might be null is unknown. -/
def splatOf (source : Evaluation) (each : Datum → Evaluation) : Evaluation :=
  if !source.problems.isEmpty then ⟨.unknown .dynamic, source.problems⟩
  else match source.value, source.value.items? with
    | .null, _ => ⟨.tuple [], []⟩
    | .unknown .dynamic, _ => ⟨.unknown .dynamic, []⟩
    | _, some items => spread each items
    | .unknown k, none => ⟨.unknown .dynamic, (spread each [.unknown k]).problems⟩
    | d, none => spread each [d]

mutual

def Expr.evalAt : Expr → Datum → Evaluation
  | .literal v _, _ => ⟨v, []⟩
  | .template parts _, item => joinParts parts (evalAll parts item)
  | .wrapped e _, item => e.evalAt item
  | .variable _ rootSpan _ _, _ => ⟨.unknown .dynamic, [⟨.variable, rootSpan⟩]⟩
  | .relative source steps _, item =>
    let whole := source.evalAt item
    let part := follow whole.value steps
    ⟨part.value, whole.problems ++ part.problems⟩
  | .index collection key _ brackets _, item =>
    let c := collection.evalAt item
    let k := key.evalAt item
    let part := follow c.value [(.index k.value, brackets)]
    ⟨part.value, c.problems ++ k.problems ++ part.problems⟩
  | .splat source each _ _, item => splatOf (source.evalAt item) fun d => each.evalAt d
  | .item _, item => ⟨item, []⟩
  | .call _ _ span, _ => ⟨.unknown .dynamic, [⟨.call, span⟩]⟩
  | .tuple items _ _, item =>
    let es := evalAll items item
    ⟨.tuple (es.map (·.value)), es.flatMap (·.problems)⟩
  | .object keys values _ _, item =>
    let ks := (keys.zip (evalAll keys item)).map fun (key, e) => (key, keyOf key e)
    let vs := values.zip (evalAll values item)
    joinFields ((ks.zip vs).map fun ((key, k), (value, v)) => fieldOf key value k v)
  | .parens e _, item => e.evalAt item
  | .unary op e _ span, item =>
    let given := e.evalAt item
    let (v, problems) := operand .only (some op.type) e given.value
    applied op.type span (given.problems ++ problems) (op.apply v)
  | .binary op left right span, item =>
    let l := left.evalAt item
    let r := right.evalAt item
    let (x, xs) := operand .left op.operandType? left l.value
    let (y, ys) := operand .right op.operandType? right r.value
    applied op.type span (l.problems ++ r.problems ++ xs ++ ys) (op.apply x y)

def evalAll : List Expr → Datum → List Evaluation
  | [], _ => []
  | e :: es, item => e.evalAt item :: evalAll es item

end

def Expr.eval (e : Expr) : Evaluation := e.evalAt (.unknown .dynamic)

end ShaderGraph.Config
