import ShaderGraph.Export.Textures
import ShaderGraph.Stage.Sink

/-!
# Exporting a material

An export compiles a material, writes its textures, and hands the document to a sink only when all of
that has succeeded.
-/
namespace ShaderGraph.Export

structure Options where
  settings : Stage.Settings
  directory : Text
  /-- How many textures are resolved at a time, all if it is not positive. -/
  concurrency : Int
  /-- Whether the export was called off before it began. -/
  cancelled : Bool

def Failure.message : Failure → Text
  | .noWriter => "Export requires USDA writer in config"
  | .compile cause => cause.message?.getD []
  | .encoding => "generated USDA is not valid UTF-8"
  | .noDirectory count =>
    "material binds " ++ Text.ofNat count ++ " textures but no texture directory was configured"
  | .fileName name => "texture parameter " ++ Text.quote name ++ " is not a valid file name"
  | .directory cause => cause.message
  | .load name cause => "resolving texture " ++ Text.quote name ++ ": " ++ cause.message
  | .noImage name => "texture " ++ Text.quote name ++ " resolved to no image"
  | .write name cause => "writing texture " ++ Text.quote name ++ ": " ++ cause.message
  | .document => "writing USDA: " ++ Stage.Sink.full

def Failure.isWorker : Failure → Bool
  | .load _ _ | .noImage _ | .write _ _ => true
  | _ => false

/-- What an export returns, its files and its failure side by side, and what it leaves behind. -/
structure Outcome where
  /-- The files written for the textures by name, in the order of the names. -/
  files : Option (List (Text × Text))
  failure : Option Failure
  sink : Option Stage.Sink
  tree : FileTree
  log : List LogEntry

def Outcome.bindings (o : Outcome) : Except Failure (List (Text × Text)) :=
  match o.failure with
  | some f => .error f
  | none => .ok (o.files.getD [])

def faultEntries (material : Text) : Stage.CompileError → List LogEntry
  | .faults messages => messages.map fun m =>
    ⟨.error, "shader graph error", [("material", .text material), ("message", .text m)]⟩
  | _ => []

def textureEntries (material directory : Text) (w : Written) : List LogEntry :=
  let about (fields : List (Text × LogField)) : List (Text × LogField) :=
    ("material", .text material) :: fields
  let each := w.files.map fun (name, path) =>
    ⟨.debug, "wrote texture", about [("parameter", .text name), ("path", .text path)]⟩
  match w.failure with
  | some f =>
    if f.isWorker then
      each ++ [⟨.error, "texture export failed", about [("error", .text f.message)]⟩]
    else each
  | none =>
    if w.files.isEmpty then []
    else each ++ [⟨.info, "wrote textures",
      about [("count", .number w.files.length), ("dir", .text directory)]⟩]

/-- Exports a material. The events of `schedule` happen to the workers first, and those that are left
are then finished in turn. -/
def run (options : Options) (net : Network) (mat : Stage.Material) (sink : Option Stage.Sink)
    (tree : FileTree) (schedule : List Event) : Outcome :=
  match sink with
  | none => ⟨none, some .noWriter, sink, tree, []⟩
  | some out =>
    match Stage.compile options.settings net mat with
    | .error e => ⟨none, some (.compile e), sink, tree, faultEntries mat.name e⟩
    | .ok c =>
      let doc := c.text
      if !doc.isUtf8 then ⟨none, some .encoding, sink, tree, []⟩
      else
        let compiled : LogEntry := ⟨.debug, "compiled material",
          [("material", .text mat.name), ("lines", .number c.lines.length),
           ("textures", .number c.textures.length)]⟩
        let w := writeTextures tree options.cancelled options.directory options.concurrency
          c.textures schedule
        let log := compiled :: textureEntries mat.name options.directory w
        match w.failure with
        | some f => ⟨none, some f, sink, w.tree, log⟩
        | none =>
          match out.write doc with
          | (_, false, out) => ⟨none, some .document, some out, w.tree, log⟩
          | (n, true, out) =>
            let files := w.files.mergeSort fun a b => Text.le a.1 b.1
            ⟨some files, none, some out, w.tree, log ++ [⟨.info, "wrote USDA",
              [("material", .text mat.name), ("bytes", .number n)]⟩]⟩

end ShaderGraph.Export
