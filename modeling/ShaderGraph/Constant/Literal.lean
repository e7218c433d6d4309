import ShaderGraph.Constant.Basic
import ShaderGraph.Number.Numeral
import ShaderGraph.Text.Trim

/-!
# Literals

The text form of constants in scene description. `Constant.literal` writes a constant and
`Literal.parse` reads one of a given type back: booleans as `1` and `0`, texts between quotes, vectors
as tuples, matrices as tuples of rows, and a color space behind the tuple of a color. Texture sources
are bound by name and never written, so every asset is the empty text.
-/
namespace ShaderGraph

def NumberLayout.literal : NumberLayout := ⟨-4, 6, 2, "nan", "inf", "-inf"⟩

namespace Literal

def number (x : Single) : Text := NumberLayout.literal.text x

def tuple (elems : List Text) : Text := "(" ++ Text.join ", " elems ++ ")"

def pieces {α : Type} (size : Nat) : Nat → List α → List (List α)
  | 0, _ => []
  | count + 1, xs => xs.take size :: pieces size count (xs.drop size)

def spaceMark : Text := "(colorSpace = "

def colorSpace (space : Text) : Text :=
  if space.isEmpty then [] else " " ++ spaceMark ++ Text.quote space ++ ")"

end Literal

open Literal in
def Constant.literal : Constant → Text
  | .bool b => if b then "1" else "0"
  | .int .one v => Text.join [] (v.toList.map fun n => Text.ofInt n.toInt)
  | .int _ v => tuple (v.toList.map fun n => Text.ofInt n.toInt)
  | .half .one v | .float .one v => Text.join [] (v.toList.map number)
  | .half _ v | .float _ v => tuple (v.toList.map number)
  | .string s | .token s => Text.quote s
  | .asset _ => Text.quote []
  | .color _ v space => tuple (v.toList.map number) ++ Literal.colorSpace space
  | .matrix o v => tuple ((pieces o.count o.count v.toList).map fun row => tuple (row.map number))

namespace Literal

inductive Problem where
  | notTuple
  | nestedTuple
  | notRows
  | malformedRow
  | missingComma
  | integer (elem : Text) (why : Numeral.Problem)
  | float (elem : Text) (why : Numeral.Problem)
  | syntaxError
deriving DecidableEq, Repr

def reason : Numeral.Problem → Text
  | .malformed => "invalid syntax"
  | .outOfRange => "value out of range"

def Problem.message : Problem → Text
  | .notTuple => "expected parenthesized tuple"
  | .nestedTuple => "unexpected nested tuple"
  | .notRows => "expected parenthesized tuple of rows"
  | .malformedRow => "malformed matrix row"
  | .missingComma => "expected comma between matrix rows"
  | .integer elem why => "strconv.ParseInt: parsing " ++ Text.quote elem ++ ": " ++ reason why
  | .float elem why => "strconv.ParseFloat: parsing " ++ Text.quote elem ++ ": " ++ reason why
  | .syntaxError => reason .malformed

inductive Error where
  | bool (literal : Text)
  | type (tag : TypeTag)
  | malformed (type : DataType) (literal : Text) (problem : Problem)
  | asset
  | space (literal : Text)
  | components (e : Constant.ComponentError)
deriving DecidableEq, Repr

def Error.message : Error → Text
  | .bool literal => "invalid bool literal " ++ Text.quote literal
  | .type tag => "invalid data type " ++ tag.name
  | .malformed t literal p =>
    "invalid " ++ t.name ++ " literal " ++ Text.quote literal ++ ": " ++ p.message
  | .asset => "asset literals other than the empty texture can not be resolved to a texture source"
  | .space literal =>
    "invalid color space in " ++ Text.quote literal ++ ": " ++ Problem.syntaxError.message
  | .components e => e.message

def enclosed? (s : Text) : Option Text :=
  match s with
  | 0x28 :: t =>
    match t.reverse with
    | 0x29 :: inner => some inner.reverse
    | _ => none
  | _ => none

def splitTuple (s : Text) : Except Problem (List Text) :=
  match enclosed? s with
  | none => .error .notTuple
  | some inner =>
    if inner.any fun b => b == 0x28 || b == 0x29 then .error .nestedTuple
    else .ok ((inner.splitOn 0x2c).map Text.trim)

def takeRow? : Text → Option (Text × Text)
  | [] => none
  | b :: t =>
    if b = 0x29 then some ([b], t)
    else (takeRow? t).map fun (row, rest) => (b :: row, rest)

/-- The elements of the rows `(a, b), (c, d)`. Each row takes at least two bytes, so `fuel` at the
length of the text is enough. -/
def splitRows : Nat → Text → Except Problem (List Text)
  | _, [] => .ok []
  | 0, _ => .error .malformedRow
  | fuel + 1, s =>
    match takeRow? s with
    | none => .error .malformedRow
    | some (row, rest) =>
      if s.head? ≠ some 0x28 then .error .malformedRow
      else do
        let elems ← splitTuple row
        match Text.trim rest with
        | [] => return elems
        | 0x2c :: rest => return elems ++ (← splitRows fuel (Text.trim rest))
        | _ => throw .missingComma

def splitMatrix (s : Text) : Except Problem (List Text) :=
  match enclosed? s with
  | none => .error .notRows
  | some inner =>
    let inner := Text.trim inner
    splitRows inner.length inner

def readElement (t : DataType) (elem : Text) : Except Problem Double :=
  if t.isInteger then
    match Numeral.readInt 32 elem with
    | .ok n => .ok (.ofInt n)
    | .error why => .error (.integer elem why)
  else
    match Numeral.readBinary .binary32 elem with
    | .ok x => .ok (x.convert .binary64)
    | .error why => .error (.float elem why)

def elements (t : DataType) (s : Text) : Except Problem (List Text) :=
  if t.components = 1 then .ok [s]
  else if t.isMatrix then splitMatrix s
  else splitTuple s

/-- Splits the color space off a color literal: the tuple and the space, which is empty when there is
none. The mark that introduces a space cannot stand at the very start. -/
def splitSpace (s : Text) : Except Unit (Text × Text) :=
  match Text.splitLast? spaceMark s with
  | none | some ([], _) => .ok (s, [])
  | some (before, after) =>
    match Text.unquote? (Text.trim (Text.dropSuffix ")" after)) with
    | some space => .ok (Text.trim before, space)
    | none => .error ()

def parseNumeric (t : DataType) (literal s : Text) : Except Error Constant := do
  let (body, space) ← if t.isColor then (splitSpace s).mapError fun _ => .space literal
    else pure (s, [])
  let xs ← (do (← elements t body).mapM (readElement t)).mapError (.malformed t literal)
  let c ← (Constant.ofVector t xs).mapError .components
  return if space.isEmpty then c else c.withColorSpace space

def parse (tag : TypeTag) (literal : Text) : Except Error Constant :=
  let s := Text.trim literal
  let text (t : DataType) : Except Error Text :=
    match Text.unquote? s with
    | some value => .ok value
    | none => .error (.malformed t literal .syntaxError)
  match tag.dataType? with
  | none => .error (.type tag)
  | some .bool =>
    if s = Text.ofString "1" ∨ s = Text.ofString "true" then .ok (.bool true)
    else if s = Text.ofString "0" ∨ s = Text.ofString "false" then .ok (.bool false)
    else .error (.bool literal)
  | some .string => (text .string).map .string
  | some .token => (text .token).map .token
  | some .asset => do
    let value ← text .asset
    if value.isEmpty then return .asset none else throw .asset
  | some t => parseNumeric t literal s

end Literal
end ShaderGraph
