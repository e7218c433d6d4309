import ShaderGraph.Config.Convert
import ShaderGraph.Text.Composed

/-!
# Parts of values

The steps from a value to one of its parts: an attribute of an object by its name, and an item of a
tuple or an attribute of an object by a key. A part of an unknown value is unknown, with the type that
the whole says it has.
-/
namespace ShaderGraph.Config

inductive StepError where
  | attributeOfNull
  | attributeMissing (name : Text)
  | attributeOfScalar (type : Scalar)
  | noAttributes
  | indexOfNull
  | nullKey
  | key (cause : ConversionError)
  | fractional
  | negative
  | noElements
  | pastEnd
  | keyMissing
  /-- There is no attribute of the name that the key is, maybe as a number. -/
  | nameMissing (byNumber : Bool)
  | noIndices
deriving DecidableEq, Repr

namespace StepError

def summary : StepError → Text
  | .attributeOfNull => "Attempt to get attribute from null value"
  | .attributeMissing _ | .attributeOfScalar _ | .noAttributes => "Unsupported attribute"
  | .indexOfNull => "Attempt to index null value"
  | _ => "Invalid index"

def missing : Text := "The given key does not identify an element in this collection value"

def detail : StepError → Text
  | .attributeOfNull => "This value is null, so it does not have any attributes."
  | .attributeMissing name =>
    "This object does not have an attribute named " ++ Text.quote name ++ "."
  | .attributeOfScalar type =>
    "Can't access attributes on a primitive-typed value (" ++ type.name ++ ")."
  | .noAttributes => "This value does not have any attributes."
  | .indexOfNull => "This value is null, so it does not have any indices."
  | .nullKey => "Can't use a null value as an indexing key."
  | .key cause => missing ++ ": " ++ cause.message ++ "."
  | .fractional =>
    missing ++ ": indexing a sequence requires a whole number, but the given index has a " ++
      "fractional part."
  | .negative => missing ++ ": a negative number is not a valid index for a sequence."
  | .noElements => missing ++ ": the collection has no elements."
  | .pastEnd =>
    missing ++ ": the given index is greater than or equal to the length of the collection."
  | .keyMissing | .nameMissing false => missing ++ "."
  | .nameMissing true =>
    missing ++ ". An object only supports looking up attributes by name, not by numeric index."
  | .noIndices => "This value does not have any indices."

end StepError

namespace Datum

def items? : Datum → Option (List Datum)
  | .tuple items => some items
  | .unknown (.tuple kinds) => some (kinds.map .unknown)
  | _ => none

def fields? : Datum → Option (List (Text × Datum))
  | .object fields => some fields
  | .unknown (.object kinds) => some (kinds.map fun (name, k) => (name, .unknown k))
  | _ => none

def attributeNamed (d : Datum) (name : Text) : Except StepError Datum :=
  match d, d.fields? with
  | .null, _ => .error .attributeOfNull
  | .unknown .dynamic, _ => .ok d
  | _, some fields =>
    match fields.lookup (Text.composed name) with
    | some part => .ok part
    | none => .error (.attributeMissing name)
  | _, none =>
    match d.kind.scalar? with
    | some type => .error (.attributeOfScalar type)
    | none => .error .noAttributes

/-- The item at a number. The item just past the end and one further on are told apart. -/
def itemAt (items : List Datum) (x : Wide) : Except StepError Datum :=
  if !x.isWhole then .error .fractional
  else match x.toInt? with
    | some (.ofNat i) =>
      match items[i]? with
      | some part => .ok part
      | none =>
        if items.length < i then .error .keyMissing
        else .error (if items.isEmpty then .noElements else .pastEnd)
    | some (.negSucc _) => .error .negative
    | none => .error (if x.isNegative then .negative else .keyMissing)

def partAt (d key : Datum) : Except StepError Datum :=
  match d, key with
  | .null, _ => .error .indexOfNull
  | _, .null => .error .nullKey
  | .unknown .dynamic, _ | _, .unknown .dynamic => .ok (.unknown .dynamic)
  | _, _ =>
    match d.items?, d.fields? with
    | some items, _ =>
      match key.convert (.scalar .number) with
      | .ok (.number x) => itemAt items x
      | .ok _ => .ok (.unknown .dynamic)
      | .error cause => .error (.key cause)
    | none, some fields =>
      match key.convert (.scalar .string) with
      | .ok (.string name) =>
        match fields.lookup name with
        | some part => .ok part
        | none => .error (.nameMissing (key.kind.scalar? == some .number))
      | .ok _ => .ok (.unknown .dynamic)
      | .error cause => .error (.key cause)
    | none, none => .error .noIndices

def step (d : Datum) : Step → Except StepError Datum
  | .attribute name => d.attributeNamed name
  | .index key => d.partAt key

def insertField (name : Text) (d : Datum) : List (Text × Datum) → List (Text × Datum)
  | [] => [(name, d)]
  | (other, v) :: fs =>
    if name = other then (name, d) :: fs
    else if Text.le name other then (name, d) :: (other, v) :: fs
    else (other, v) :: insertField name d fs

def ofFields (fields : List (Text × Datum)) : Datum :=
  .object (fields.foldl (fun acc (name, d) => insertField name d acc) [])

end Datum
end ShaderGraph.Config
