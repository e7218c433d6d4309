import ShaderGraph.Text.Basic
import ShaderGraph.Text.CodePoints

/-!
# Text without outer white space
-/
namespace ShaderGraph

namespace Rune

def isBlank : Rune → Bool
  | .scalar c => Text.isBlank c
  | .stray _ => false

end Rune

namespace Text

def trimRunes (rs : List Rune) : List Rune :=
  ((rs.dropWhile Rune.isBlank).reverse.dropWhile Rune.isBlank).reverse

def trim (t : Text) : Text := ofRunes (trimRunes t.runes)

end Text
end ShaderGraph
