import ShaderGraph.Text.Basic

/-!
# File paths

Paths are texts with slashes. Cleaning is lexical: it drops empty and `.` elements and resolves `..`
against the element before it.
-/
namespace ShaderGraph.Path

def isAbsolute (p : Text) : Bool := p.head? == some 0x2f

def pushElement (rooted : Bool) (done : List Text) (elem : Text) : List Text :=
  if elem.isEmpty || elem == Text.ofString "." then done
  else if elem == Text.ofString ".." then
    match done with
    | last :: rest => if last == Text.ofString ".." then elem :: done else rest
    | [] => if rooted then [] else [elem]
  else elem :: done

def cleanElements (p : Text) : List Text :=
  ((p.splitOn 0x2f).foldl (pushElement (isAbsolute p)) []).reverse

/-- The shortest path that is lexically the same, `.` for the empty path. -/
def clean (p : Text) : Text :=
  let body := Text.join "/" (cleanElements p)
  if isAbsolute p then 0x2f :: body
  else if body.isEmpty then "." else body

def join (a b : Text) : Text :=
  if a.isEmpty then (if b.isEmpty then [] else clean b)
  else clean (a ++ 0x2f :: b)

def directory (p : Text) : Text := clean ((p.reverse.dropWhile (· ≠ 0x2f)).reverse)

end ShaderGraph.Path
