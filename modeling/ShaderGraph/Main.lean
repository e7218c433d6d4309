import ShaderGraph.Command.Run
import ShaderGraph.Image.Png

/-!
# The command line

Reads the files that a run looks at, runs it, and writes what it has changed.
-/
namespace ShaderGraph.Main

def name (t : Text) : String := t.toString?.getD ""

def look (path : String) : IO (Option Entry) := do
  try
    return some (.file (.bytes (← IO.FS.readBinFile path).data.toList))
  catch
    | .inappropriateType .. => return some .directory
    | _ => return none

def observe (tree : FileTree) (path : Text) : IO FileTree := do
  let mut tree := tree
  let elements := Path.cleanElements path
  let start : Location := if Path.isAbsolute path then [[]] else []
  for count in List.range' 1 elements.length do
    let l := start ++ elements.take count
    match ← look (name l.path) with
    | some e => tree := tree.put l e
    | none => pure ()
  return tree

def contentBytes : Content → List UInt8
  | .bytes data => data
  | .picture image => image.png

def store (before after : FileTree) : IO Unit := do
  for (l, e) in after.entries.reverse do
    if before.entry? l ≠ some e then
      match e with
      | .directory => IO.FS.createDirAll (name l.path)
      | .file c => IO.FS.writeBinFile (name l.path) ⟨(contentBytes c).toArray⟩

def print (out : IO.FS.Stream) (t : Text) : IO Unit := out.write ⟨t.toArray⟩

end ShaderGraph.Main

open ShaderGraph ShaderGraph.Main in
def main (args : List String) : IO UInt32 := do
  let words := args.map Text.ofString
  let stderr ← IO.getStderr
  let seen ← (Command.paths words .empty).foldlM observe .empty
  let before ← (Command.paths words seen).foldlM observe seen
  match Command.run words false before with
  | .error misuse =>
    print stderr (misuse.message?.getD [] ++ "\n")
    return 2
  | .ok o =>
    store before o.tree
    print (← IO.getStdout) o.stdout
    print stderr o.stderr
    for entry in o.logTexts do
      print stderr (entry ++ "\n")
    match o.failure with
    | some f => print stderr (f.message ++ "\n")
    | none => pure ()
    return o.status.toUInt32
