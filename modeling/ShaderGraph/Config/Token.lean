import ShaderGraph.Text.Cluster
import ShaderGraph.Text.Word
import ShaderGraph.Text.Basic

/-!
# Tokens of a configuration

`Token.scan` cuts the characters of a configuration file into tokens. Blanks and comments in slashes
and stars are dropped; a comment up to the end of the line counts as the end of the line. Between
double quotes the text comes in pieces, with the tokens of interpolated expressions in between.
Damaged bytes may stand in comments only. Heredocs and the directives of templates are left out: there
are no tokens for them.
-/
namespace ShaderGraph.Config

/-- A place in a file. Lines and columns count from one, and a column is a grapheme cluster. -/
structure Position where
  line : Nat
  column : Nat
deriving DecidableEq, Repr

/-- The characters from `start` up to, but without, `stop`. -/
structure Span where
  start : Position
  stop : Position
deriving DecidableEq, Repr

def Span.empty (p : Position) : Span := ⟨p, p⟩

def Span.to (a b : Span) : Span := ⟨a.start, b.stop⟩

def Position.next (p : Position) (cluster : List Rune) : Position :=
  if cluster = [.scalar '\n'] ∨ cluster = [.scalar '\r', .scalar '\n'] then ⟨p.line + 1, 1⟩
  else ⟨p.line, p.column + 1⟩

def Position.advance (p : Position) (lexeme : List Rune) : Position :=
  (Text.clusters lexeme).foldl Position.next p

inductive Mark where
  | openBrace | closeBrace | openBracket | closeBracket | openParen | closeParen
  | assign | comma | dot | colon | doubleColon | question | arrow | ellipsis
  | bang | plus | minus | star | slash | percent
  | equal | notEqual | less | lessEqual | greater | greaterEqual | and | or
deriving DecidableEq, Repr

inductive TokenKind where
  | word (name : List Char)
  | number (lexeme : List Char)
  | newline
  | openQuote
  | closeQuote
  /-- Text between quotes, as it is written. -/
  | piece (raw : List Char)
  | openInterpolation
  | closeInterpolation
  | mark (m : Mark)
deriving DecidableEq, Repr

structure Token where
  kind : TokenKind
  span : Span
deriving DecidableEq, Repr

/-- What the scanner is inside of: text between quotes, or an interpolated expression with a number of
open braces. -/
inductive Mode where
  | quoted
  | interpolated (depth : Nat)
deriving DecidableEq, Repr

structure Scanned where
  kind : Option TokenKind
  count : Nat
  modes : List Mode

def marks : List (List Char × Mark) :=
  [(['.', '.', '.'], .ellipsis), (['=', '='], .equal), (['!', '='], .notEqual),
   (['<', '='], .lessEqual), (['>', '='], .greaterEqual), (['&', '&'], .and), (['|', '|'], .or),
   (['=', '>'], .arrow), ([':', ':'], .doubleColon), (['['], .openBracket), ([']'], .closeBracket),
   (['('], .openParen), ([')'], .closeParen), (['='], .assign), ([','], .comma), (['.'], .dot),
   ([':'], .colon), (['?'], .question), (['!'], .bang), (['+'], .plus), (['-'], .minus),
   (['*'], .star), (['/'], .slash), (['%'], .percent), (['<'], .less), (['>'], .greater)]

def leadingChars (p : Char → Bool) : List Rune → List Char
  | .scalar c :: rs => if p c then c :: leadingChars p rs else []
  | _ => []

def scanMark? (modes : List Mode) (rs : List Rune) : Option Scanned :=
  let cs := leadingChars (fun _ => true) (rs.take 3)
  (marks.find? fun (spelling, _) => spelling.isPrefixOf cs).map fun (spelling, m) =>
    ⟨some (.mark m), spelling.length, modes⟩

def lineCommentLength : List Rune → Nat × Bool
  | [] => (0, false)
  | r :: rs =>
    if r = .scalar '\n' then (1, true)
    else
      let (n, ends) := lineCommentLength rs
      (n + 1, ends)

def blockCommentLength? : List Rune → Option Nat
  | [] => none
  | r :: rs =>
    if r = .scalar '*' ∧ rs.head? = some (.scalar '/') then some 2
    else (blockCommentLength? rs).map (· + 1)

def numberLength : List Char → Nat
  | [] => 0
  | c :: cs =>
    if c.isDigit || c == '.' then numberLength cs + 1
    else if c == 'e' || c == 'E' then
      match cs with
      | s :: d :: rest =>
        if s.isDigit then numberLength (d :: rest) + 2
        else if (s == '+' || s == '-') && d.isDigit then numberLength rest + 3
        else 0
      | [d] => if d.isDigit then 2 else 0
      | [] => 0
    else 0

def numberLexeme (cs : List Char) : List Char :=
  ((cs.take (numberLength cs)).reverse.dropWhile (· == '.')).reverse

def isNumberPart (c : Char) : Bool :=
  c.isDigit || c == '.' || c == 'e' || c == 'E' || c == '+' || c == '-'

def scanCode? (modes : List Mode) : List Rune → Option Scanned
  | [] | .stray _ :: _ => none
  | .scalar c :: rs =>
    if c = ' ' ∨ c = '\t' then some ⟨none, 1, modes⟩
    else if c = '\n' then some ⟨some .newline, 1, modes⟩
    else if c = '\r' then
      if rs.head? = some (.scalar '\n') then some ⟨some .newline, 2, modes⟩ else none
    else if c = '#' ∨ (c = '/' ∧ rs.head? = some (.scalar '/')) then
      let (n, ends) := lineCommentLength rs
      some ⟨if ends then some .newline else none, n + 1, modes⟩
    else if c = '/' ∧ rs.head? = some (.scalar '*') then
      (blockCommentLength? (rs.drop 1)).map fun n => ⟨none, n + 2, modes⟩
    else if c.isDigit then
      let lexeme := numberLexeme (c :: leadingChars isNumberPart rs)
      some ⟨some (.number lexeme), lexeme.length, modes⟩
    else if Text.isWordStart c then
      let name := c :: leadingChars Text.isWordPart rs
      some ⟨some (.word name), name.length, modes⟩
    else if c = '"' then some ⟨some .openQuote, 1, .quoted :: modes⟩
    else if c = '\x7b' then
      let modes := match modes with
        | .interpolated depth :: rest => .interpolated (depth + 1) :: rest
        | _ => modes
      some ⟨some (.mark .openBrace), 1, modes⟩
    else if c = '\x7d' then
      match modes with
      | .interpolated 0 :: rest => some ⟨some .closeInterpolation, 1, rest⟩
      | .interpolated (depth + 1) :: rest =>
        some ⟨some (.mark .closeBrace), 1, .interpolated depth :: rest⟩
      | _ => some ⟨some (.mark .closeBrace), 1, modes⟩
    else scanMark? modes (.scalar c :: rs)

def plainChars : List Rune → List Char
  | [] | .stray _ :: _ => []
  | .scalar c :: rs =>
    if c = '$' ∨ c = '%' ∨ c = '"' ∨ c = '\n' ∨ c = '\r' then []
    else if c = '\\' then
      match rs with
      | [] | .stray _ :: _ => []
      | .scalar d :: rest => if d = '\n' ∨ d = '\r' then [] else c :: d :: plainChars rest
    else c :: plainChars rs

def scanQuoted? (rest : List Mode) (rs : List Rune) : Option Scanned :=
  match leadingChars (fun _ => true) (rs.take 3) with
  | '"' :: _ => some ⟨some .closeQuote, 1, rest⟩
  | '$' :: '\x7b' :: _ => some ⟨some .openInterpolation, 2, .interpolated 0 :: .quoted :: rest⟩
  | '%' :: '\x7b' :: _ => none
  | '$' :: '$' :: '\x7b' :: _ => some ⟨some (.piece ['$', '$', '\x7b']), 3, .quoted :: rest⟩
  | '%' :: '%' :: '\x7b' :: _ => some ⟨some (.piece ['%', '%', '\x7b']), 3, .quoted :: rest⟩
  | '$' :: _ => some ⟨some (.piece ['$']), 1, .quoted :: rest⟩
  | '%' :: _ => some ⟨some (.piece ['%']), 1, .quoted :: rest⟩
  | _ =>
    match plainChars rs with
    | [] => none
    | cs => some ⟨some (.piece cs), cs.length, .quoted :: rest⟩

def scanOne? (modes : List Mode) (rs : List Rune) : Option Scanned :=
  match modes with
  | .quoted :: rest => scanQuoted? rest rs
  | _ => scanCode? modes rs

/-- The tokens of the rest of a file, `none` where a character fits no token. -/
def scanFrom (p : Position) (modes : List Mode) (rs : List Rune) : Option (List Token) :=
  match rs with
  | [] => some []
  | r :: rest =>
    match scanOne? modes (r :: rest) with
    | none => none
    | some s =>
      let n := s.count - 1
      let q := p.advance ((r :: rest).take (n + 1))
      have : (rest.drop n).length < (r :: rest).length := by
        simp only [List.length_drop, List.length_cons]
        omega
      (scanFrom q s.modes (rest.drop n)).map fun ts =>
        match s.kind with
        | some kind => ⟨kind, ⟨p, q⟩⟩ :: ts
        | none => ts
termination_by rs.length

def byteOrderMark : Char := Char.ofNat 0xfeff

def Token.scan (rs : List Rune) : Option (List Token) :=
  scanFrom ⟨1, 1⟩ [] (if rs.head? = some (.scalar byteOrderMark) then rs.drop 1 else rs)

end ShaderGraph.Config
