/-!
# Text as bytes

Names and literals are byte strings. They are UTF-8 by convention only: a name may hold any bytes,
and a damaged byte has to survive up to the place where it is reported. `runes` reads a text as a
sequence of Unicode scalar values and damaged bytes, and `ofRunes` writes such a sequence back.
-/
namespace ShaderGraph

/-- A byte string, by convention but not by force in UTF-8. -/
abbrev Text := List UInt8

namespace Text

def ofString (s : String) : Text := s.toUTF8.data.toList

instance : Coe String Text := ⟨ofString⟩

def ofChar (c : Char) : Text := String.utf8EncodeChar c

def ofChars (cs : List Char) : Text := cs.flatMap ofChar

def digit (n : Nat) : UInt8 := (Nat.digitChar n).toUInt8

def ofNat (n : Nat) : Text := (Nat.toDigits 10 n).map Char.toUInt8

def ofInt : Int → Text
  | .ofNat n => ofNat n
  | .negSucc n => 0x2d :: ofNat (n + 1)

def ofHex (width n : Nat) : Text :=
  let digits := (Nat.toDigits 16 n).map Char.toUInt8
  List.replicate (width - digits.length) 0x30 ++ digits

def join (sep : Text) : List Text → Text
  | [] => []
  | [t] => t
  | t :: ts => t ++ sep ++ join sep ts

def splitOn (sep : UInt8) : Text → List Text
  | [] => [[]]
  | b :: rest =>
    if b = sep then [] :: splitOn sep rest
    else match splitOn sep rest with
      | [] => [[b]]
      | piece :: pieces => (b :: piece) :: pieces

def dropPrefix? : Text → Text → Option Text
  | [], t => some t
  | _ :: _, [] => none
  | p :: ps, b :: t => if p = b then dropPrefix? ps t else none

def dropSuffix (suf t : Text) : Text :=
  match dropPrefix? suf.reverse t.reverse with
  | some rest => rest.reverse
  | none => t

def splitLast? (pat : Text) : Text → Option (Text × Text)
  | [] => (dropPrefix? pat []).map ([], ·)
  | b :: t =>
    match splitLast? pat t with
    | some (before, after) => some (b :: before, after)
    | none => (dropPrefix? pat (b :: t)).map ([], ·)

def le : Text → Text → Bool
  | [], _ => true
  | _ :: _, [] => false
  | a :: s, b :: t => if a = b then le s t else decide (a < b)

end Text

/-- One unit of a text: a Unicode scalar value, or a byte that is not part of one. -/
inductive Rune where
  | scalar (c : Char)
  | stray (b : UInt8)
deriving DecidableEq, Repr

namespace Rune

def bytes : Rune → Text
  | .scalar c => Text.ofChar c
  | .stray b => [b]

end Rune

namespace Text

def isTail (b : UInt8) : Bool := 0x80 ≤ b && b ≤ 0xbf

def assemble (n : Nat) (tail : List UInt8) : Char :=
  Char.ofNat (tail.foldl (fun acc b => acc * 64 + (b.toNat - 0x80)) n)

def follow (n count : Nat) (lo hi : UInt8) (t : Text) : Option (Char × Nat) :=
  match t with
  | [] => none
  | b :: _ =>
    let tail := t.take count
    if lo ≤ b && b ≤ hi && tail.length == count && tail.all isTail then
      some (assemble n tail, count)
    else none

/-- The scalar value encoded at the start of `a :: t`, and how many bytes of `t` belong to it.
Overlong forms, surrogates and values above U+10FFFF are refused. -/
def leading? (a : UInt8) (t : Text) : Option (Char × Nat) :=
  if a < 0x80 then some (Char.ofNat a.toNat, 0)
  else if a < 0xc2 then none
  else if a < 0xe0 then follow (a.toNat - 0xc0) 1 0x80 0xbf t
  else if a = 0xe0 then follow 0 2 0xa0 0xbf t
  else if a = 0xed then follow 13 2 0x80 0x9f t
  else if a < 0xf0 then follow (a.toNat - 0xe0) 2 0x80 0xbf t
  else if a = 0xf0 then follow 0 3 0x90 0xbf t
  else if a < 0xf4 then follow (a.toNat - 0xf0) 3 0x80 0xbf t
  else if a = 0xf4 then follow 4 3 0x80 0x8f t
  else none

def runesAfter : Nat → Text → List Rune
  | _, [] => []
  | skip + 1, _ :: t => runesAfter skip t
  | 0, a :: t =>
    match leading? a t with
    | some (c, n) => .scalar c :: runesAfter n t
    | none => .stray a :: runesAfter 0 t

def runes (t : Text) : List Rune := runesAfter 0 t

def ofRunes (rs : List Rune) : Text := rs.flatMap Rune.bytes

def chars? (t : Text) : Option (List Char) :=
  t.runes.mapM fun
    | .scalar c => some c
    | .stray _ => none

def isUtf8 (t : Text) : Bool := t.chars?.isSome

def replacement : Char := Char.ofNat 0xfffd

def toString? (t : Text) : Option String := t.chars?.map String.ofList

end Text
end ShaderGraph
