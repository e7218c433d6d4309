import ShaderGraph.Text.Basic
import ShaderGraph.Text.Printable

/-!
# Quoted text

`quote` writes a text between double quotes, with an escape for each quote, backslash, damaged byte
and character that is not printable. `unquote?` reads text between double, single or back quotes;
between single quotes there is at most one character, and between back quotes nothing is an escape.
-/
namespace ShaderGraph.Text

def shortEscapes : List (Char × Char) :=
  [('\x07', 'a'), ('\x08', 'b'), ('\x0c', 'f'), ('\n', 'n'), ('\r', 'r'), ('\t', 't'), ('\x0b', 'v')]

def escapeChar (c : Char) : Text :=
  if c = '"' ∨ c = '\\' then 0x5c :: ofChar c
  else if isPrintable c then ofChar c
  else match shortEscapes.lookup c with
    | some letter => 0x5c :: ofChar letter
    | none =>
      if c.toNat < 0x80 then "\\x" ++ ofHex 2 c.toNat
      else if c.toNat < 0x10000 then "\\u" ++ ofHex 4 c.toNat
      else "\\U" ++ ofHex 8 c.toNat

def escapeRune : Rune → Text
  | .scalar c => escapeChar c
  | .stray b => "\\x" ++ ofHex 2 b.toNat

def quote (t : Text) : Text := 0x22 :: t.runes.flatMap escapeRune ++ [0x22]

def hexValue? (b : UInt8) : Option Nat :=
  if 0x30 ≤ b ∧ b ≤ 0x39 then some (b.toNat - 0x30)
  else if 0x61 ≤ b ∧ b ≤ 0x66 then some (b.toNat - 0x61 + 10)
  else if 0x41 ≤ b ∧ b ≤ 0x46 then some (b.toNat - 0x41 + 10)
  else none

def takeHex? (count : Nat) (t : Text) : Option (Nat × Text) :=
  if t.length < count then none
  else ((t.take count).mapM hexValue?).map fun ds =>
    (ds.foldl (fun acc d => acc * 16 + d) 0, t.drop count)

def octalValue? (b : UInt8) : Option Nat :=
  if 0x30 ≤ b ∧ b ≤ 0x37 then some (b.toNat - 0x30) else none

def scalar? (n : Nat) : Option Char :=
  if n < 0xd800 ∨ (0xe000 ≤ n ∧ n < 0x110000) then some (Char.ofNat n) else none

def readEscape? (mark : UInt8) : Text → Option (Text × Text)
  | 0x61 :: t => some ([0x07], t)
  | 0x62 :: t => some ([0x08], t)
  | 0x66 :: t => some ([0x0c], t)
  | 0x6e :: t => some ([0x0a], t)
  | 0x72 :: t => some ([0x0d], t)
  | 0x74 :: t => some ([0x09], t)
  | 0x76 :: t => some ([0x0b], t)
  | 0x5c :: t => some ([0x5c], t)
  | 0x78 :: t => (takeHex? 2 t).map fun (n, rest) => ([n.toUInt8], rest)
  | 0x75 :: t => do
    let (n, rest) ← takeHex? 4 t
    return (ofChar (← scalar? n), rest)
  | 0x55 :: t => do
    let (n, rest) ← takeHex? 8 t
    return (ofChar (← scalar? n), rest)
  | a :: t =>
    if a = 0x22 ∨ a = 0x27 then
      if a = mark then some ([a], t) else none
    else match t with
      | b :: c :: rest => do
        let n := (← octalValue? a) * 64 + (← octalValue? b) * 8 + (← octalValue? c)
        if n ≤ 255 then return ([n.toUInt8], rest) else none
      | _ => none
  | [] => none

/-- Reads one character inside quotes of the given kind: its value, and the text after it. A
damaged byte is read as U+FFFD; a line feed and the closing quote are refused. -/
def readQuoted? (mark : UInt8) : Text → Option (Text × Text)
  | [] => none
  | b :: t =>
    if b = mark ∨ b = 0x0a then none
    else if b = 0x5c then readEscape? mark t
    else match leading? b t with
      | some (c, n) => some (ofChar c, t.drop n)
      | none => some (ofChar (Char.ofNat 0xfffd), t)

/-- The value of the characters up to the closing double quote, which has to end the text. Every
character takes at least one byte, so `fuel` at the length of the text is enough. -/
def readDoubleQuoted? : Nat → Text → Option Text
  | 0, _ => none
  | fuel + 1, t =>
    if t = [0x22] then some []
    else match readQuoted? 0x22 t with
      | none => none
      | some (value, rest) => (readDoubleQuoted? fuel rest).map (value ++ ·)

def unquote? : Text → Option Text
  | 0x22 :: t => readDoubleQuoted? t.length t
  | 0x27 :: t =>
    if t = [0x27] then some []
    else match readQuoted? 0x27 t with
      | some (value, [0x27]) => some value
      | _ => none
  | 0x60 :: t =>
    match t.reverse with
    | 0x60 :: inner => if 0x60 ∈ inner then none else some (inner.reverse.filter (· ≠ 0x0d))
    | _ => none
  | _ => none

end ShaderGraph.Text
