import ShaderGraph.Text.Quoted

/-!
# Log entries

A log entry is a level, a message and named fields. It is written as a line of plain text, where a
value of several lines has lines of its own, or as a JSON object.
-/
namespace ShaderGraph

inductive LogLevel where
  | trace | debug | info | warn | error
deriving DecidableEq, Repr

namespace LogLevel

def name : LogLevel → Text
  | .trace => "trace"
  | .debug => "debug"
  | .info => "info"
  | .warn => "warn"
  | .error => "error"

def all : List LogLevel := [.trace, .debug, .info, .warn, .error]

def rank (l : LogLevel) : Nat := all.idxOf l

def tag : LogLevel → Text
  | .trace => "[TRACE] "
  | .debug => "[DEBUG] "
  | .info => "[INFO]  "
  | .warn => "[WARN]  "
  | .error => "[ERROR] "

end LogLevel

inductive LogField where
  | text (value : Text)
  | number (value : Nat)
deriving DecidableEq, Repr

structure LogEntry where
  level : LogLevel
  message : Text
  fields : List (Text × LogField)
deriving DecidableEq, Repr

namespace LogField

def isPlain : Rune → Bool
  | .scalar c => '-' ≤ c && c ≤ '~'
  | .stray _ => false

def isSpecial : Rune → Bool
  | .scalar c => c == '"' || !Text.isPrintable c
  | .stray _ => false

/-- A character of a value with escapes. Quotes are escaped if there are quotes around the value. A
backslash is an ordinary character, and a damaged byte gives way to the replacement character. -/
def escapeRune (quoted : Bool) : Rune → Text
  | .stray _ => Text.ofChar Text.replacement
  | .scalar c =>
    if c = '"' ∧ quoted then [0x5c, 0x22]
    else if Text.isPrintable c then Text.ofChar c
    else match Text.shortEscapes.lookup c with
      | some letter => 0x5c :: Text.ofChar letter
      | none =>
        if c.toNat < 0x20 then "\\x" ++ Text.ofHex 2 c.toNat
        else if c.toNat < 0x10000 then "\\u" ++ Text.ofHex 4 c.toNat
        else "\\U" ++ Text.ofHex 8 c.toNat

def escaped (quoted : Bool) (t : Text) : Text :=
  if t.runes.any isSpecial then t.runes.flatMap (escapeRune quoted) else t

def valueLines (t : Text) : List Text :=
  let lines := Text.splitOn 0x0a t
  if lines.getLast? = some [] then lines.dropLast else lines

/-- A field behind the message of an entry. A value of several lines stands on lines of its own, each
behind a bar. -/
def line (name : Text) : LogField → Text
  | .number n => " " ++ name ++ "=" ++ Text.ofNat n
  | .text [] => " " ++ name ++ "=\"\""
  | .text t =>
    if t.contains 0x0a then
      let barred (l : Text) : Text := "  | " ++ escaped false l ++ "\n"
      "\n  " ++ name ++ "=\n" ++ (valueLines t).flatMap barred ++ "  "
    else if t.runes.all isPlain then " " ++ name ++ "=" ++ t
    else " " ++ name ++ "=\"" ++ escaped true t ++ "\""

def jsonChar (c : Char) : Text :=
  let escape (mark : Char) : Text := [0x5c, mark.toUInt8]
  if c = '"' then escape '"'
  else if c = '\\' then escape '\\'
  else if c = '\n' then escape 'n'
  else if c = '\r' then escape 'r'
  else if c = '\t' then escape 't'
  else if c.toNat = 8 then escape 'b'
  else if c.toNat = 12 then escape 'f'
  else if c.toNat < 0x20 ∨ c = '<' ∨ c = '>' ∨ c = '&' ∨ c.toNat = 0x2028 ∨ c.toNat = 0x2029 then
    escape 'u' ++ Text.ofHex 4 c.toNat
  else Text.ofChar c

def jsonString (t : Text) : Text :=
  let body := t.runes.flatMap fun
    | .scalar c => jsonChar c
    | .stray _ => Text.ofString "\\ufffd"
  [0x22] ++ body ++ [0x22]

def json : LogField → Text
  | .number n => Text.ofNat n
  | .text t => jsonString t

end LogField

namespace LogEntry

def text (logger : Text) (e : LogEntry) : Text :=
  let head := e.level.tag ++ logger ++ ": " ++ e.message
  if e.fields.isEmpty then head
  else head ++ ":" ++ e.fields.flatMap fun (name, v) => v.line name

def json (logger : Text) (e : LogEntry) : Text :=
  let own : List (Text × LogField) :=
    [("@level", .text e.level.name), ("@message", .text e.message), ("@module", .text logger)]
  let members := (own ++ e.fields).mergeSort fun a b => Text.le a.1 b.1
  [0x7b] ++ Text.join "," (members.map fun (k, v) => LogField.jsonString k ++ ":" ++ v.json) ++
    [0x7d]

end LogEntry
end ShaderGraph
