import ShaderGraph.Number.Numeral
import ShaderGraph.Text.Quoted

/-!
# Flags of the command line

A flag is a word with one or two dashes. Its value stands behind an equals sign or is the next word;
a switch needs none. Flags end at the first other word, at a single dash, or after two dashes.
-/
namespace ShaderGraph.Command

structure Arguments where
  output : Text
  material : Text
  textures : Text
  concurrency : Int
  upAxis : Text
  logLevel : Text
  logJson : Bool
  /-- The words after the flags. -/
  operands : List Text
deriving DecidableEq, Repr

def Arguments.standard : Arguments := ⟨"-", [], "textures", 0, "Y", "warn", false, []⟩

inductive Flag where
  | output | material | textures | concurrency | upAxis | logLevel | logJson
deriving DecidableEq, Repr

namespace Flag

def name : Flag → Text
  | .output => "o"
  | .material => "material"
  | .textures => "textures"
  | .concurrency => "concurrency"
  | .upAxis => "up-axis"
  | .logLevel => "log-level"
  | .logJson => "log-json"

def all : List Flag :=
  [.output, .material, .textures, .concurrency, .upAxis, .logLevel, .logJson]

def ofName? (name : Text) : Option Flag := all.find? (·.name = name)

def isSwitch (f : Flag) : Bool := f = .logJson

end Flag

inductive FlagError where
  | badForm (word : Text)
  | undefined (name : Text)
  | needsValue (name : Text)
  | badValue (value name : Text) (cause : Numeral.Problem)
  | badSwitch (value name : Text)
deriving DecidableEq, Repr

def FlagError.message : FlagError → Text
  | .badForm word => "bad flag syntax: " ++ word
  | .undefined name => "flag provided but not defined: -" ++ name
  | .needsValue name => "flag needs an argument: -" ++ name
  | .badValue value name cause =>
    "invalid value " ++ Text.quote value ++ " for flag -" ++ name ++ ": " ++
      (match cause with
        | .malformed => "parse error"
        | .outOfRange => "value out of range")
  | .badSwitch value name =>
    "invalid boolean value " ++ Text.quote value ++ " for -" ++ name ++ ": parse error"

inductive FlagStop where
  | help
  | error (cause : FlagError)
deriving DecidableEq, Repr

def readSwitch? (value : Text) : Option Bool :=
  let yes : List Text := ["1", "t", "T", "TRUE", "true", "True"]
  let no : List Text := ["0", "f", "F", "FALSE", "false", "False"]
  if yes.contains value then some true else if no.contains value then some false else none

def Arguments.set (a : Arguments) (f : Flag) (value : Text) : Except FlagError Arguments :=
  match f with
  | .output => .ok { a with output := value }
  | .material => .ok { a with material := value }
  | .textures => .ok { a with textures := value }
  | .upAxis => .ok { a with upAxis := value }
  | .logLevel => .ok { a with logLevel := value }
  | .concurrency =>
    match Numeral.readAnyBase 64 value with
    | .ok n => .ok { a with concurrency := n }
    | .error cause => .error (.badValue value f.name cause)
  | .logJson =>
    match readSwitch? value with
    | some b => .ok { a with logJson := b }
    | none => .error (.badSwitch value f.name)

inductive Word where
  | operand
  | terminator
  | flag (name : Text) (value : Option Text)
  | badForm
deriving DecidableEq, Repr

def splitValue (t : Text) : Text × Option Text :=
  match t.dropWhile (· ≠ 0x3d) with
  | [] => (t, none)
  | _ :: value => (t.takeWhile (· ≠ 0x3d), some value)

def flagWord (t : Text) : Word :=
  match t with
  | [] => .badForm
  | b :: _ =>
    if b = 0x2d ∨ b = 0x3d then .badForm
    else
      let (name, value) := splitValue t
      .flag name value

def Word.of : Text → Word
  | [0x2d, 0x2d] => .terminator
  | 0x2d :: 0x2d :: name => flagWord name
  | 0x2d :: b :: name => flagWord (b :: name)
  | _ => .operand

def isHelp (name : Text) : Bool := name == Text.ofString "help" || name == Text.ofString "h"

/-- Reads the words of the command line. `waiting` is a flag whose value comes next. -/
def parseFlags (a : Arguments) : Option Flag → List Text → Except FlagStop Arguments
  | none, [] => .ok a
  | some f, [] => .error (.error (.needsValue f.name))
  | some f, value :: words =>
    match a.set f value with
    | .ok a => parseFlags a none words
    | .error e => .error (.error e)
  | none, word :: words =>
    match Word.of word with
    | .operand => .ok { a with operands := word :: words }
    | .terminator => .ok { a with operands := words }
    | .badForm => .error (.error (.badForm word))
    | .flag name value =>
      match Flag.ofName? name with
      | none => .error (if isHelp name then .help else .error (.undefined name))
      | some f =>
        match value, f.isSwitch with
        | none, false => parseFlags a (some f) words
        | value, _ =>
          match a.set f (value.getD "true") with
          | .ok a => parseFlags a none words
          | .error e => .error (.error e)

def usage : Text := Text.join "\n"
  ["sgcoder compiles an HCL shader graph to USDA.",
   "",
   "Usage:",
   "  sgcoder [options] FILE.hcl",
   "",
   "Options:",
   "  -concurrency int",
   "    \tMaximum textures resolved at the same time. 0 uses all CPUs.",
   "  -log-json",
   "    \tLog in JSON format.",
   "  -log-level string",
   "    \tLogging level: 'trace', 'debug', 'info', 'warn' or 'error'. (default \"warn\")",
   "  -material string",
   "    \tMaterial to compile. May be omitted if the file declares a single material.",
   "  -o string",
   "    \tOutput USDA file. '-' writes to standard output. (default \"-\")",
   "  -textures string",
   "    \tDirectory textures are written to. (default \"textures\")",
   "  -up-axis string",
   "    \tStage up axis, 'Y' or 'Z'. (default \"Y\")",
   ""]

end ShaderGraph.Command
