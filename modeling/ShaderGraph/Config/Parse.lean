import ShaderGraph.Config.Expr
import ShaderGraph.Text.Composed
import ShaderGraph.Text.Quoted

/-!
# Parsing a configuration

Recursive descent over tokens. Line ends matter between the items of a body and of an object, and
nowhere inside parentheses and brackets. A file that is not well formed has no parse; what exactly is
wrong with it is not reported.

Some forms of the language are left out, and a file with one of them has no parse either: conditionals
with a question mark, `for` expressions, heredocs and the directives of templates. What is loaded from
a file depends on an expression only through its reference, its value and its place, so results about
loading are stated over blueprints, whose expressions may have been written in any form.
-/
namespace ShaderGraph.Config

abbrev TokenReader (α : Type) := StateT (List Token) Option α

namespace TokenReader

def skip (lines : Bool) (ts : List Token) : List Token :=
  if lines then ts else ts.dropWhile (·.kind == .newline)

def peek? (lines : Bool) : TokenReader (Option TokenKind) := do
  return ((skip lines (← get)).head?).map (·.kind)

def next (lines : Bool) : TokenReader Token := do
  match skip lines (← get) with
  | t :: ts =>
    set ts
    return t
  | [] => failure

def accept? (lines : Bool) (kind : TokenKind) : TokenReader (Option Token) := do
  if (← peek? lines) == some kind then
    let t ← next lines
    return some t
  else return none

def expect (lines : Bool) (kind : TokenKind) : TokenReader Token := do
  match ← accept? lines kind with
  | some t => return t
  | none => failure

end TokenReader

open TokenReader

def hexNumber? (cs : List Char) : Option Nat :=
  (cs.mapM fun c => if c.toNat < 0x80 then Text.hexValue? c.toUInt8 else none).map
    fun ds => ds.foldl (fun acc d => acc * 16 + d) 0

def unicodeEscape? (count : Nat) (cs : List Char) : Option Char :=
  if cs.length < count then none else (hexNumber? (cs.take count)).bind Text.scalar?

def unescape? : Nat → List Char → Option (List Char)
  | _, [] => some []
  | skip + 1, _ :: cs => unescape? skip cs
  | 0, '\\' :: 'n' :: cs => (unescape? 0 cs).map ('\n' :: ·)
  | 0, '\\' :: 'r' :: cs => (unescape? 0 cs).map ('\r' :: ·)
  | 0, '\\' :: 't' :: cs => (unescape? 0 cs).map ('\t' :: ·)
  | 0, '\\' :: '"' :: cs => (unescape? 0 cs).map ('"' :: ·)
  | 0, '\\' :: '\\' :: cs => (unescape? 0 cs).map ('\\' :: ·)
  | 0, '\\' :: 'u' :: cs => do
    let c ← unicodeEscape? 4 cs
    return c :: (← unescape? 4 cs)
  | 0, '\\' :: 'U' :: cs => do
    let c ← unicodeEscape? 8 cs
    return c :: (← unescape? 8 cs)
  | 0, '\\' :: _ => none
  | 0, c :: cs => (unescape? 0 cs).map (c :: ·)

/-- The text of a piece between quotes. A doubled mark before a brace stands for one. -/
def pieceChars? (raw : List Char) : Option (List Char) :=
  match raw with
  | [m, _, '\x7b'] => if m = '$' ∨ m = '%' then some [m, '\x7b'] else unescape? 0 raw
  | _ => unescape? 0 raw

inductive QuotedPart where
  | text (cs : List Char) (span : Span)
  | value (e : Expr)

def QuotedPart.addText (cs : List Char) (span : Span) : List QuotedPart → List QuotedPart
  | .text before first :: parts => .text (before ++ cs) (first.to span) :: parts
  | parts => .text cs span :: parts

def QuotedPart.expr : QuotedPart → Expr
  | .text cs span => .literal (.string (Text.ofChars (Text.compose cs))) span
  | .value e => e

/-- Operators by level, the ones that bind least first. -/
def levels : List (List (Mark × BinaryOp)) :=
  [[(.or, .or)], [(.and, .and)], [(.equal, .equal), (.notEqual, .notEqual)],
   [(.greater, .greater), (.greaterEqual, .greaterEqual), (.less, .less),
    (.lessEqual, .lessEqual)],
   [(.plus, .add), (.minus, .subtract)],
   [(.star, .multiply), (.slash, .divide), (.percent, .modulo)]]

def keyword? (name : List Char) : Option Datum :=
  if name = "true".toList then some (.bool true)
  else if name = "false".toList then some (.bool false)
  else if name = "null".toList then some .null
  else none

def forKeyword : TokenKind := .word "for".toList

def literalKey? : Expr → Option Datum
  | .literal v _ => some v
  | .template [.literal v _] _ => some v
  | _ => none

def parseDotStep (lines : Bool) : TokenReader (Step × Span) := do
  let t ← next lines
  match t.kind with
  | .word name => return (.attribute (Text.ofChars name), t.span)
  | .number lexeme =>
    if '.' ∈ lexeme then failure
    match Wide.parse? (Text.ofChars lexeme) with
    | some x => return (.index (.number x), t.span)
    | none => failure
  | _ => failure

mutual

def parseExpr : Nat → Bool → TokenReader Expr
  | 0, _ => failure
  | fuel + 1, lines => parseOperators fuel lines levels

def parseOperators : Nat → Bool → List (List (Mark × BinaryOp)) → TokenReader Expr
  | 0, _, _ => failure
  | fuel + 1, lines, [] => do
    let e ← parseTerm fuel lines
    parseSteps fuel lines e
  | fuel + 1, lines, level :: tighter => do
    let left ← parseOperators fuel lines tighter
    parseRight fuel lines level tighter left

def parseRight : Nat → Bool → List (Mark × BinaryOp) → List (List (Mark × BinaryOp)) → Expr →
    TokenReader Expr
  | 0, _, _, _, _ => failure
  | fuel + 1, lines, level, tighter, left => do
    match ← peek? lines with
    | some (.mark m) =>
      match level.lookup m with
      | some op =>
        let _ ← next lines
        let right ← parseOperators fuel lines tighter
        parseRight fuel lines level tighter (.binary op left right (left.span.to right.span))
      | none => return left
    | _ => return left

def parseTerm : Nat → Bool → TokenReader Expr
  | 0, _ => failure
  | fuel + 1, lines => do
    let t ← next lines
    match t.kind with
    | .mark .openParen =>
      let e ← parseExpr fuel false
      let close ← expect false (.mark .closeParen)
      return .parens e (t.span.to close.span)
    | .number lexeme =>
      match Wide.parse? (Text.ofChars lexeme) with
      | some x => return .literal (.number x) t.span
      | none => failure
    | .word name =>
      match ← peek? lines with
      | some (.mark .openParen) | some (.mark .doubleColon) =>
        let opening ← parseCallOpening fuel lines
        let (args, close) ← parseItems fuel (.mark .closeParen)
        return .call (t.span.to opening) args (t.span.to close)
      | _ =>
        match keyword? name with
        | some v => return .literal v t.span
        | none => return .variable (Text.ofChars name) t.span [] t.span
    | .openQuote => parseQuoted fuel t.span []
    | .mark .minus =>
      let e ← parseOperators fuel lines []
      return .unary .negate e t.span (t.span.to e.span)
    | .mark .bang =>
      let e ← parseOperators fuel lines []
      return .unary .not e t.span (t.span.to e.span)
    | .mark .openBracket =>
      if (← peek? false) == some forKeyword then failure
      let (items, close) ← parseItems fuel (.mark .closeBracket)
      return .tuple items t.span (t.span.to close)
    | .mark .openBrace =>
      if (← peek? false) == some forKeyword then failure
      let (keys, values, close) ← parseFields fuel
      return .object keys values t.span (t.span.to close)
    | _ => failure

/-- The opening parenthesis of a call, after the rest of a name with double colons in it. -/
def parseCallOpening : Nat → Bool → TokenReader Span
  | 0, _ => failure
  | fuel + 1, lines => do
    let t ← next lines
    match t.kind with
    | .mark .openParen => return t.span
    | .mark .doubleColon =>
      let name ← next lines
      match name.kind with
      | .word _ => parseCallOpening fuel lines
      | _ => failure
    | _ => failure

def parseItems : Nat → TokenKind → TokenReader (List Expr × Span)
  | 0, _ => failure
  | fuel + 1, closer => do
    match ← accept? false closer with
    | some close => return ([], close.span)
    | none =>
      let e ← parseExpr fuel false
      match ← accept? false closer with
      | some close => return ([e], close.span)
      | none =>
        let sep ← next false
        if sep.kind == .mark .ellipsis && closer == .mark .closeParen then
          let close ← expect false closer
          return ([e], close.span)
        if sep.kind != .mark .comma then failure
        let (es, close) ← parseItems fuel closer
        return (e :: es, close)

def parseFields : Nat → TokenReader (List Expr × List Expr × Span)
  | 0 => failure
  | fuel + 1 => do
    match ← peek? true with
    | some .newline =>
      let _ ← next true
      parseFields fuel
    | some (.mark .closeBrace) =>
      let close ← next true
      return ([], [], close.span)
    | _ =>
      let key ← parseExpr fuel true
      let sep ← next true
      if sep.kind != .mark .assign && sep.kind != .mark .colon then failure
      let value ← parseExpr fuel true
      match ← accept? true (.mark .closeBrace) with
      | some close => return ([key], [value], close.span)
      | none =>
        let sep ← next true
        if sep.kind != .mark .comma && sep.kind != .newline then failure
        let (keys, values, close) ← parseFields fuel
        return (key :: keys, value :: values, close)

def parseQuoted : Nat → Span → List QuotedPart → TokenReader Expr
  | 0, _, _ => failure
  | fuel + 1, opening, parts => do
    let t ← next true
    match t.kind with
    | .piece raw =>
      match pieceChars? raw with
      | some cs => parseQuoted fuel opening (QuotedPart.addText cs t.span parts)
      | none => failure
    | .openInterpolation =>
      let e ← parseExpr fuel false
      let _ ← expect false .closeInterpolation
      parseQuoted fuel opening (.value e :: parts)
    | .closeQuote =>
      let span := opening.to t.span
      match parts with
      | [] => return .template [.literal (.string []) (.empty t.span.stop)] span
      | [.value e] => return .wrapped e span
      | _ => return .template (parts.reverse.map QuotedPart.expr) span
    | _ => failure

def parseSteps : Nat → Bool → Expr → TokenReader Expr
  | 0, _, _ => failure
  | fuel + 1, lines, e => do
    match ← peek? lines with
    | some (.mark .dot) =>
      let dot ← next lines
      match ← accept? lines (.mark .star) with
      | some star =>
        let marker := dot.span.to star.span
        let each ← parseItemSteps fuel lines (.item marker)
        parseSteps fuel lines (.splat e each marker (e.span.to each.span))
      | none =>
        let (s, stop) ← parseDotStep lines
        parseSteps fuel lines (e.step s (dot.span.to stop))
    | some (.mark .openBracket) =>
      let opening ← next lines
      match ← accept? lines (.mark .star) with
      | some _ =>
        let close ← expect lines (.mark .closeBracket)
        let marker := opening.span.to close.span
        let each ← parseSteps fuel lines (.item marker)
        return .splat e each marker (e.span.to each.span)
      | none =>
        let key ← parseExpr fuel false
        let close ← expect false (.mark .closeBracket)
        let brackets := opening.span.to close.span
        match literalKey? key with
        | some v => parseSteps fuel lines (e.step (.index v) brackets)
        | none =>
          parseSteps fuel lines (.index e key opening.span brackets (e.span.to brackets))
    | _ => return e

def parseItemSteps : Nat → Bool → Expr → TokenReader Expr
  | 0, _, _ => failure
  | fuel + 1, lines, e => do
    match ← accept? lines (.mark .dot) with
    | some dot =>
      let (s, stop) ← parseDotStep lines
      parseItemSteps fuel lines (e.step s (dot.span.to stop))
    | none => return e

end

def parseLabel : Nat → TokenReader (List Char × Span)
  | 0 => failure
  | fuel + 1 => do
    let t ← next true
    match t.kind with
    | .piece raw =>
      match pieceChars? raw with
      | some cs =>
        let (rest, close) ← parseLabel fuel
        return (cs ++ rest, close)
      | none => failure
    | .closeQuote => return ([], t.span)
    | _ => failure

def parseLabels : Nat → TokenReader (List (Text × Span) × Span)
  | 0 => failure
  | fuel + 1 => do
    let t ← next true
    match t.kind with
    | .mark .openBrace => return ([], t.span)
    | .openQuote =>
      let (cs, close) ← parseLabel fuel
      let (labels, brace) ← parseLabels fuel
      return ((Text.ofChars cs, t.span.to close) :: labels, brace)
    | .word name =>
      let (labels, brace) ← parseLabels fuel
      return ((Text.ofChars name, t.span) :: labels, brace)
    | _ => failure

def parseLineEnd : TokenReader Unit := do
  match ← peek? true with
  | none => return ()
  | some .newline =>
    let _ ← next true
    return ()
  | _ => failure

mutual

def parseBody : Nat → Bool → Position → List Attribute → List Block → TokenReader Body
  | 0, _, _, _, _ => failure
  | fuel + 1, inBlock, start, attributes, blocks => do
    match ← peek? true with
    | none => if inBlock then failure else return .mk attributes.reverse blocks.reverse start
    | some .newline =>
      let _ ← next true
      parseBody fuel inBlock start attributes blocks
    | some (.mark .closeBrace) =>
      if inBlock then
        let _ ← next true
        return .mk attributes.reverse blocks.reverse start
      else failure
    | some (.word name) =>
      let t ← next true
      if (← peek? true) == some (.mark .assign) then
        let _ ← next true
        let e ← parseExpr fuel true
        parseLineEnd
        let name := Text.ofChars name
        if attributes.any (·.name = name) then failure
        parseBody fuel inBlock start (⟨name, t.span, e⟩ :: attributes) blocks
      else
        let block ← parseBlock fuel t.span (Text.ofChars name)
        parseBody fuel inBlock start attributes (block :: blocks)
    | _ => failure

def parseBlock : Nat → Span → Text → TokenReader Block
  | 0, _, _ => failure
  | fuel + 1, typeSpan, type => do
    let (labels, brace) ← parseLabels fuel
    let body ← match ← peek? true with
      | some (.word name) => do
        let t ← next true
        let _ ← expect true (.mark .assign)
        let e ← parseExpr fuel true
        let _ ← expect true (.mark .closeBrace)
        pure (Body.mk [⟨Text.ofChars name, t.span, e⟩] [] t.span.start)
      | _ => parseBody fuel true brace.start [] []
    parseLineEnd
    return .mk type typeSpan labels brace body

end

/-- Parses a whole file. Every call of a parser that does not read a token descends by one level of
operators, so sixteen times the number of tokens is fuel enough. -/
def parseFile (src : Text) : Option Body := do
  let ts ← Token.scan src.runes
  let fuel := 16 * (ts.length + 2)
  let (body, rest) ← (parseBody fuel false ⟨1, 1⟩ [] []).run ts
  if rest.isEmpty then return body else none

end ShaderGraph.Config
