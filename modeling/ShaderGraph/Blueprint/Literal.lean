import ShaderGraph.Blueprint.Fault

/-!
# Literals of a blueprint

A literal is an expression that is read as a constant of a declared type. Vectors are written as lists
and matrices as lists of rows. It is read in the same way wherever it stands.
-/
namespace ShaderGraph.Blueprint

open Config (Datum Expr Span)

def colorSpaces : List Text := ["lin_srgb", "srgb_texture", "lin_displayp3", "srgb_displayp3"]

def checkColorSpace (type : DataType) (space : Text) : Except Fault Unit :=
  if space.isEmpty then .ok ()
  else if !colorSpaces.contains space then .error (.colorSpaceUnknown space)
  else if !type.isColor then .error (.colorSpaceUnused type)
  else .ok ()

def flattenRows (order : Nat) : Nat → List (List Double) → Except ValueError (List Double)
  | _, [] => .ok []
  | i, row :: rows =>
    if row.length ≠ order then .error (.rowLength i order row.length)
    else do return row ++ (← flattenRows order (i + 1) rows)

def numbers (type : DataType) (d : Datum) : Except ValueError (List Double) :=
  match type with
  | .matrix order => do
    let rows ← d.toRows.mapError .rows
    if rows.length ≠ order.count then throw (.rowCount order.count rows.length)
    flattenRows order.count 0 rows
  | _ =>
    if type.components = 1 then do return [← d.toDouble.mapError .conversion]
    else d.toDoubles.mapError (.numbers type.components)

def constantOf (type : DataType) (d : Datum) : Except ValueError Constant :=
  match d with
  | .null => .error .null
  | _ =>
    if !d.isKnown then .error .unknown
    else match type with
      | .bool => do return .bool (← d.toBool.mapError .conversion)
      | .string => do return .string (← d.toText.mapError .conversion)
      | .token => do return .token (← d.toText.mapError .conversion)
      | .asset => .error .asset
      | _ => do (Constant.ofComponents type (← numbers type d)).mapError .components

/-- The constant that an expression of a declared type stands for, the canonical one of the type if
the expression is left out. The color space is checked first, and reported at `subject`. -/
def literal (type : DataType) (e? : Option Expr) (space : Text) (subject : Span) :
    Except (List Diagnostic) Constant :=
  match checkColorSpace type space with
  | .error fault => .error [⟨fault, some subject⟩]
  | .ok () =>
    match e? with
    | none => .ok ((Constant.defaultOf type).withColorSpace space)
    | some e =>
      let evaluation := e.eval
      if !evaluation.problems.isEmpty then
        .error (evaluation.problems.map .ofProblem)
      else match constantOf type evaluation.value with
        | .ok c => .ok (c.withColorSpace space)
        | .error cause => .error [⟨.value type cause, some e.span⟩]

end ShaderGraph.Blueprint
