import ShaderGraph.Text.Basic
import ShaderGraph.Text.Composition

/-!
# Composed characters

Strings of a configuration are kept in composed form: every character is taken apart into letters and
marks, the marks after a letter are put in order of their classes, and each mark is then composed with
the letter where there is one character for both.
-/
namespace ShaderGraph.Text

def combiningClass (c : Char) : Nat :=
  let n := c.toNat
  if n < 0x300 then 0
  else match classRuns.find? fun (first, last, _) => first ≤ n && n ≤ last with
    | some (_, _, k) => k
    | none => 0

/-- The first jamo of each kind and the first syllable. A syllable is its first consonant, its vowel
and its last consonant, counted in this order. -/
def firstLead : Nat := 0x1100

def firstVowel : Nat := 0x1161

def firstTrail : Nat := 0x11a7

def firstSyllable : Nat := 0xac00

/-- How many leading consonants, vowels and last consonants there are, where no consonant is one of
the last ones. -/
def leadCount : Nat := 19

def vowelCount : Nat := 21

def trailCount : Nat := 28

def isSyllable (n : Nat) : Bool :=
  firstSyllable ≤ n && n < firstSyllable + leadCount * vowelCount * trailCount

def syllableParts (n : Nat) : List Nat :=
  let i := n - firstSyllable
  let lead := firstLead + i / (vowelCount * trailCount)
  let vowel := firstVowel + i / trailCount % vowelCount
  if i % trailCount = 0 then [lead, vowel] else [lead, vowel, firstTrail + i % trailCount]

def syllable? (a b : Nat) : Option Nat :=
  if firstLead ≤ a ∧ a < firstLead + leadCount ∧ firstVowel ≤ b ∧ b < firstVowel + vowelCount then
    some (firstSyllable + ((a - firstLead) * vowelCount + (b - firstVowel)) * trailCount)
  else if isSyllable a ∧ (a - firstSyllable) % trailCount = 0 ∧ firstTrail < b
      ∧ b < firstTrail + trailCount then
    some (a + (b - firstTrail))
  else none

def splitIn? (table : List (Nat × List (Nat × Nat))) (n : Nat) : Option (Nat × Nat) :=
  table.findSome? fun (mark, row) =>
    (row.find? fun (_, whole) => whole = n).map fun (letter, _) => (letter, mark)

def replacement? (n : Nat) : Option Nat :=
  replacements.findSome? fun (first, run) => if first ≤ n then run[n - first]? else none

def partsOf : Nat → Nat → List Nat
  | 0, n => [n]
  | depth + 1, n =>
    if n < 0xc0 then [n]
    else if isSyllable n then syllableParts n
    else match (splitIn? compositions n).or (splitIn? splitOnly n) with
      | some (letter, mark) => partsOf depth letter ++ partsOf depth mark
      | none =>
        match replacement? n with
        | some m => partsOf depth m
        | none => [n]

def decompose (c : Char) : List Char := (partsOf 4 c.toNat).map Char.ofNat

def composition? (letter mark : Char) : Option Char :=
  if mark.toNat < 0x300 then none
  else
    let whole? := (syllable? letter.toNat mark.toNat).or do
      let row ← compositions.lookup mark.toNat
      row.lookup letter.toNat
    whole?.map Char.ofNat

def isDependent (c : Char) : Bool :=
  let n := c.toNat
  if n < 0x300 then false
  else combiningClass c != 0 || (compositions.lookup n).isSome
    || (firstVowel ≤ n && n < firstVowel + vowelCount)
    || (firstTrail < n && n < firstTrail + trailCount)

/-- The most characters in a row that may depend on one letter. -/
def dependentLimit : Nat := 30

def markSeparator : Char := Char.ofNat 0x34f

def limitDependents (count : Nat) : List Char → List Char
  | [] => []
  | c :: cs =>
    let parts := decompose c
    let lead := (parts.takeWhile isDependent).length
    let trail := (parts.reverse.takeWhile isDependent).length
    if lead = 0 then c :: limitDependents trail cs
    else if dependentLimit < count + lead then markSeparator :: c :: limitDependents lead cs
    else c :: limitDependents (count + lead) cs

def placeMark (c : Char) : List Char → List Char
  | [] => [c]
  | d :: ds =>
    if combiningClass c ≠ 0 ∧ combiningClass c < combiningClass d then d :: placeMark c ds
    else c :: d :: ds

def orderMarks (cs : List Char) : List Char :=
  (cs.foldl (fun placed c => placeMark c placed) []).reverse

/-- Composes a letter with the characters after it. `marks` are the marks, last first, that stay
between the letter and the next character; one of the same or of a higher class keeps that character
from the letter. -/
def composeFrom (letter : Char) (marks : List Char) : List Char → List Char
  | [] => letter :: marks.reverse
  | c :: cs =>
    let blocked := marks.head?.any fun m => combiningClass c ≤ combiningClass m
    match if blocked then none else composition? letter c with
    | some both => composeFrom both marks cs
    | none =>
      if combiningClass c = 0 then letter :: marks.reverse ++ composeFrom c [] cs
      else composeFrom letter (c :: marks) cs

def compose (cs : List Char) : List Char :=
  match orderMarks ((limitDependents 0 cs).flatMap decompose) with
  | [] => []
  | c :: cs => composeFrom c [] cs

def composed (t : Text) : Text :=
  match t.chars? with
  | some cs => ofChars (compose cs)
  | none => t

end ShaderGraph.Text
