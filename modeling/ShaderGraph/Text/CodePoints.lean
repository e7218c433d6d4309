/-!
# Sets of code points

A set of code points is given by the sorted list of the places where membership changes: the first
member, the first non-member after it, and so on. A code point is a member when the number of
places at or below it is odd.
-/
namespace ShaderGraph.Text

def memBounds (bounds : List Nat) (c : Nat) : Bool :=
  (bounds.takeWhile (· ≤ c)).length % 2 == 1

def blankBounds : List Nat :=
  [0x9, 0xe, 0x20, 0x21, 0x85, 0x86, 0xa0, 0xa1, 0x1680, 0x1681, 0x2000, 0x200b, 0x2028, 0x202a,
   0x202f, 0x2030, 0x205f, 0x2060, 0x3000, 0x3001]

def isBlank (c : Char) : Bool := memBounds blankBounds c.toNat

end ShaderGraph.Text
