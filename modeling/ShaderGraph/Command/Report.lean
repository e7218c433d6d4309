import ShaderGraph.Blueprint.Fault
import ShaderGraph.Text.Trim

/-!
# Reports of faults

Faults are reported as paragraphs. Long lines are broken at white space.
-/
namespace ShaderGraph.Command

/-- Text on its way to lines of limited width. `used` bytes of the last line are written; blanks and a
word wait behind them. -/
structure Wrapping where
  written : Text
  used : Nat
  blanks : Text
  word : Text

namespace Wrapping

def settle (w : Wrapping) : Wrapping :=
  ⟨w.written ++ w.blanks ++ w.word, w.used + w.blanks.length + w.word.length, [], []⟩

def newline (limit : Nat) (w : Wrapping) : Wrapping :=
  let w :=
    if w.word.isEmpty && limit < w.used + w.blanks.length then { w with blanks := [] }
    else w.settle
  { w with written := w.written ++ [0x0a], used := 0 }

def add (limit : Nat) (w : Wrapping) (c : Char) : Wrapping :=
  if c = '\n' then w.newline limit
  else if Text.isBlank c then
    let w := if w.blanks.isEmpty || !w.word.isEmpty then w.settle else w
    { w with blanks := w.blanks ++ Text.ofChar c }
  else
    let word := w.word ++ Text.ofChar c
    if limit < w.used + w.blanks.length + word.length && word.length < limit then
      ⟨w.written ++ [0x0a], 0, [], word⟩
    else { w with word }

def close (limit : Nat) (w : Wrapping) : Text :=
  if w.word.isEmpty && limit < w.used + w.blanks.length then w.written
  else w.settle.written

end Wrapping

/-- A text with a line end in place of white space wherever a line would get longer than `limit`.
Damaged bytes give way to the replacement character. -/
def wrap (limit : Nat) (t : Text) : Text :=
  let chars := t.runes.map fun
    | .scalar c => c
    | .stray _ => Text.replacement
  (chars.foldl (Wrapping.add limit) ⟨[], 0, [], []⟩).close limit

def reportWidth : Nat := 78

def report (file : Text) (d : Blueprint.Diagnostic) : Text :=
  let place : Text := match d.subject with
    | none => []
    | some s =>
      "  on " ++ file ++ " line " ++ Text.ofNat s.start.line ++
        ":\n  (source code not available)\n\n"
  "Error: " ++ d.fault.summary ++ "\n\n" ++ place ++ wrap reportWidth d.fault.detail ++ "\n\n"

end ShaderGraph.Command
