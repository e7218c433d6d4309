import ShaderGraph.Blueprint.Load
import ShaderGraph.Command.Flags
import ShaderGraph.Command.Report
import ShaderGraph.Export.Run
import ShaderGraph.Text.Trim

/-!
# Running the command

A run reads a blueprint, exports one of its materials and writes the document to a file or to the
standard output. Everything outside is a value: the files before and after, what is printed, and the
log.
-/
namespace ShaderGraph.Command

inductive Failure where
  | flags (cause : FlagError)
  | operandCount
  | logLevel
  | upAxis
  | concurrency
  | load (file : Text)
  | materialMissing (name : Text)
  | noMaterials
  | severalMaterials (names : List Text)
  | exporting (cause : Export.Failure)
  | output (cause : FileError)
deriving DecidableEq, Repr

namespace Failure

def message : Failure → Text
  | .flags cause => cause.message
  | .operandCount => "expected exactly one HCL file argument"
  | .logLevel => "invalid log-level: must be 'trace', 'debug', 'info', 'warn' or 'error'"
  | .upAxis => "invalid up-axis: must be 'Y' or 'Z'"
  | .concurrency => "invalid concurrency: must not be negative"
  | .load file => "failed to load " ++ file
  | .materialMissing name => "material " ++ Text.quote name ++ " not found"
  | .noMaterials => "file declares no materials"
  | .severalMaterials names =>
    "file declares several materials, select one with -material: " ++ Text.join ", " names
  | .exporting cause => cause.message
  | .output cause => cause.message

def status : Failure → Nat
  | .load _ | .exporting _ | .output _ => 1
  | _ => 2

end Failure

structure Plan where
  input : Text
  arguments : Arguments
  level : LogLevel

def level? (name : Text) : Option LogLevel :=
  let name := name.trim.map Numeral.lower
  LogLevel.all.find? (·.name = name)

def plan (a : Arguments) : Except Failure Plan :=
  match a.operands with
  | [input] =>
    match level? a.logLevel with
    | none => .error .logLevel
    | some level =>
      if a.upAxis ≠ Text.ofString "Y" ∧ a.upAxis ≠ Text.ofString "Z" then .error .upAxis
      else if a.concurrency < 0 then .error .concurrency
      else .ok ⟨input, a, level⟩
  | _ => .error .operandCount

structure Outcome where
  failure : Option Failure
  stdout : Text
  /-- What is printed as an error, apart from the log. -/
  stderr : Text
  log : List LogEntry
  logJson : Bool
  tree : FileTree

namespace Outcome

def status (o : Outcome) : Nat := (o.failure.map Failure.status).getD 0

def logger : Text := "sgcoder"

def logTexts (o : Outcome) : List Text :=
  o.log.map fun e => if o.logJson then e.json logger else e.text logger

def logLines (o : Outcome) : List Text := o.logTexts.map (·.takeWhile (· != 0x0a))

/-- What is printed as an error apart from the first lines of the log entries. -/
def remarks (o : Outcome) : Text :=
  o.stderr ++ o.logTexts.flatMap fun t =>
    match t.dropWhile (· != 0x0a) with
    | [] => []
    | _ :: rest => rest ++ [0x0a]

end Outcome

def selectMaterial (l : Blueprint.Loaded) (name : Text) : Except Failure Stage.Material :=
  if !name.isEmpty then
    match l.material? name with
    | some m => .ok m
    | none => .error (.materialMissing name)
  else match l.materials with
    | [] => .error .noMaterials
    | [m] => .ok m
    | ms => .error (.severalMaterials (ms.map (·.name)))

def readInput (tree : FileTree) (file : Text) : Except Blueprint.Refusal Blueprint.Loaded :=
  match tree.read file with
  | .error cause => .error (.faults [⟨.unreadable cause.message, none⟩])
  | .ok (.bytes data) => Blueprint.read data file
  | .ok (.picture _) => .error .malformed

def deliver (p : Plan) (doc : Text) (o : Outcome) : Outcome :=
  if p.arguments.output = Text.ofString "-" then { o with stdout := doc }
  else match o.tree.write p.arguments.output (.bytes doc) with
    | .error cause => { o with failure := some (.output cause) }
    | .ok tree => { o with
        tree
        log := o.log ++ [⟨.info, "wrote material",
          [("file", .text p.arguments.output), ("bytes", .number doc.length)]⟩] }

def exportMaterial (p : Plan) (cancelled : Bool) (l : Blueprint.Loaded) (m : Stage.Material)
    (o : Outcome) : Except Misuse Outcome :=
  let options : Export.Options :=
    ⟨{ Stage.Settings.standard with upAxis := p.arguments.upAxis }, p.arguments.textures,
      p.arguments.concurrency, cancelled⟩
  let loaded : LogEntry := ⟨.debug, "loaded shader graph",
    [("file", .text p.input), ("nodes", .number l.network.nodes.length),
     ("node_graphs", .number m.nodeGraphs.length)]⟩
  let e := Export.run options l.network m (some ⟨none, []⟩) o.tree []
  let o := { o with tree := e.tree, log := o.log ++ loaded :: e.log }
  match e.bindings with
  | .error (.compile (.misuse misuse)) => .error misuse
  | .error cause => .ok { o with failure := some (.exporting cause) }
  | .ok bindings =>
    let bound := bindings.map fun (name, path) =>
      ⟨.info, "texture bound", [("parameter", .text name), ("path", .text path)]⟩
    .ok (deliver p ((e.sink.map (·.received)).getD []) { o with log := o.log ++ bound })

def execute (p : Plan) (cancelled : Bool) (tree : FileTree) : Except Misuse Outcome := do
  let o : Outcome := ⟨none, [], [], [], p.arguments.logJson, tree⟩
  let outcome ← match readInput tree p.input with
    | .error .malformed => pure { o with failure := some (.load p.input) }
    | .error (.misuse misuse) => throw misuse
    | .error (.faults ds) =>
      pure { o with failure := some (.load p.input), stderr := ds.flatMap (report p.input) }
    | .ok l =>
      match selectMaterial l p.arguments.material with
      | .error failure => pure { o with failure := some failure }
      | .ok m => exportMaterial p cancelled l m o
  return { outcome with log := outcome.log.filter fun e => p.level.rank ≤ e.level.rank }

def run (words : List Text) (cancelled : Bool) (tree : FileTree) : Except Misuse Outcome :=
  let ended (failure : Option Failure) (stderr : Text) : Outcome :=
    ⟨failure, [], stderr, [], false, tree⟩
  match parseFlags .standard none words with
  | .error .help => .ok (ended none usage)
  | .error (.error cause) => .ok (ended (some (.flags cause)) (cause.message ++ "\n" ++ usage))
  | .ok a =>
    match plan a with
    | .error .operandCount => .ok (ended (some .operandCount) usage)
    | .error failure => .ok (ended (some failure) [])
    | .ok p => execute p cancelled tree

def textureFiles (net : Network) : List Text :=
  net.nodes.flatMap fun n => n.inputs.filterMap fun i =>
    match i.value.parameter? with
    | some (_, some (.asset (some (.file path)))) => some path
    | _ => none

/-- The paths that a run looks at, as far as the files in `tree` show them. -/
def paths (words : List Text) (tree : FileTree) : List Text :=
  match parseFlags .standard none words with
  | .error _ => []
  | .ok a =>
    a.operands ++ match a.operands with
      | [input] =>
        match readInput tree input with
        | .ok l => a.output :: a.textures :: textureFiles l.network
        | .error _ => []
      | _ => []

end ShaderGraph.Command
