import ShaderGraph.Image
import ShaderGraph.Text.Path

/-!
# File trees

The part of a file system that a run can see, as a value. Reading and writing follow a path element by
element and fail with the cause that an operating system reports.
-/
namespace ShaderGraph

/-- What a file holds: bytes, or a picture that was written to it and will be read back. -/
inductive Content where
  | bytes (data : Text)
  | picture (image : Image)
deriving DecidableEq, Repr

inductive Entry where
  | directory
  | file (content : Content)
deriving DecidableEq, Repr

/-- A place as the names on the way from the working directory. Places above it start with `..`, and
absolute ones with an empty name. -/
abbrev Location := List Text

inductive FileError.Cause where
  | missing
  | notDirectory
  | isDirectory
  | taken
  | invalid
  | tooLong
deriving DecidableEq, Repr

def FileError.Cause.message : FileError.Cause → Text
  | .missing => "no such file or directory"
  | .notDirectory => "not a directory"
  | .isDirectory => "is a directory"
  | .taken => "file exists"
  | .invalid => "invalid argument"
  | .tooLong => "file name too long"

structure FileError where
  operation : Text
  path : Text
  cause : FileError.Cause
deriving DecidableEq, Repr

def FileError.message (e : FileError) : Text :=
  e.operation ++ " " ++ e.path ++ ": " ++ e.cause.message

namespace Location

def up : Text := ".."

def parent (l : Location) : Location :=
  if l = [[]] then l
  else if l.all (· = up) then up :: l
  else l.dropLast

def le : Location → Location → Bool
  | [], _ => true
  | _ :: _, [] => false
  | a :: s, b :: t => if a = b then le s t else Text.le a b

def path (l : Location) : Text := Text.join "/" l

end Location

structure FileTree where
  entries : List (Location × Entry)
deriving DecidableEq, Repr

namespace FileTree

def empty : FileTree := ⟨[]⟩

def entry? (t : FileTree) (l : Location) : Option Entry :=
  if l = [[]] ∨ l.all (· = Location.up) then some .directory else t.entries.lookup l

def put (t : FileTree) (l : Location) (e : Entry) : FileTree :=
  ⟨(l, e) :: t.entries.filter (·.1 ≠ l)⟩

def nameLimit : Nat := 255

def pathLimit : Nat := 4095

def descend (t : FileTree) (l : Location) (elem : Text) : Except FileError.Cause Location :=
  match t.entry? l with
  | none => .error .missing
  | some (.file _) => .error .notDirectory
  | some .directory =>
    if elem.isEmpty || elem == Text.ofString "." then .ok l
    else if elem == Location.up then .ok l.parent
    else if nameLimit < elem.length then .error .tooLong
    else .ok (l ++ [elem])

def locate (t : FileTree) (path : Text) : Except FileError.Cause Location :=
  if path.contains 0 then .error .invalid
  else if path.isEmpty then .error .missing
  else if pathLimit < path.length then .error .tooLong
  else (path.splitOn 0x2f).foldlM t.descend (if Path.isAbsolute path then [[]] else [])

def find (t : FileTree) (path : Text) : Except FileError.Cause Entry := do
  match t.entry? (← t.locate path) with
  | some e => return e
  | none => throw .missing

def openFile (t : FileTree) (path : Text) : Except FileError Entry :=
  (t.find path).mapError (⟨"open", path, ·⟩)

def read (t : FileTree) (path : Text) : Except FileError Content := do
  match ← t.openFile path with
  | .file c => return c
  | .directory => throw ⟨"read", path, .isDirectory⟩

def dropSlashes (path : Text) : Text := (path.reverse.dropWhile (· = 0x2f)).reverse

def target (t : FileTree) (path : Text) : Except FileError.Cause Location := do
  let slash := path.getLast? == some 0x2f
  let l ← t.locate (if slash then dropSlashes path else path)
  match t.entry? l with
  | some .directory => throw .isDirectory
  | some (.file _) => if slash then throw .notDirectory else return l
  | none => if slash then throw .isDirectory else return l

def write (t : FileTree) (path : Text) (c : Content) : Except FileError FileTree :=
  match t.target path with
  | .ok l => .ok (t.put l (.file c))
  | .error cause => .error ⟨"open", path, cause⟩

def makeDirectory (t : FileTree) (path : Text) : Except FileError FileTree :=
  match t.locate (dropSlashes path) with
  | .error cause => .error ⟨"mkdir", path, cause⟩
  | .ok l =>
    if (t.entry? l).isSome then .error ⟨"mkdir", path, .taken⟩ else .ok (t.put l .directory)

def parentPath? (path : Text) : Option Text :=
  match (path.reverse.dropWhile (· = 0x2f)).dropWhile (· ≠ 0x2f) with
  | _ :: b :: rest => some (b :: rest).reverse
  | _ => none

theorem length_parentPath?_lt {path p : Text} (h : parentPath? path = some p) :
    p.length < path.length := by
  unfold parentPath? at h
  split at h
  · rename_i a b rest heq
    have h1 := (List.dropWhile_suffix (fun x : UInt8 => decide (x ≠ 0x2f))
      (l := path.reverse.dropWhile (· = 0x2f))).length_le
    have h2 := (List.dropWhile_suffix (fun x : UInt8 => decide (x = 0x2f))
      (l := path.reverse)).length_le
    rw [heq] at h1
    cases h
    simp only [List.length_reverse, List.length_cons] at *
    omega
  · cases h

/-- Makes a directory and all those on the way to it. A path that leads to a directory is left alone,
one that leads to a file is refused. -/
def makeDirectories (t : FileTree) (path : Text) : Except FileError FileTree :=
  match t.find path with
  | .ok .directory => .ok t
  | .ok (.file _) => .error ⟨"mkdir", path, .notDirectory⟩
  | .error _ => do
    let t ← match _h : parentPath? path with
      | some p => t.makeDirectories p
      | none => pure t
    match t.makeDirectory path with
    | .ok t => return t
    | .error e =>
      match t.find path with
      | .ok .directory => return t
      | _ => throw e
termination_by path.length
decreasing_by exact length_parentPath?_lt _h

def addFile (t : FileTree) (path : Text) (c : Content) : FileTree :=
  let elements := Path.cleanElements path
  let way := (List.range' 1 (elements.length - 1)).map elements.take
  (way.foldl (fun t l => t.put l .directory) t).put elements (.file c)

def files (t : FileTree) : List (Location × Content) :=
  let found := t.entries.filterMap fun (l, e) =>
    match e with
    | .file c => if l.head? = some Location.up ∨ l.head? = some [] then none else some (l, c)
    | .directory => none
  found.mergeSort fun a b => a.1.le b.1

def changes (t before : FileTree) : List (Location × Content) :=
  t.files.filter fun (l, c) => before.entry? l ≠ some (.file c)

end FileTree
end ShaderGraph
