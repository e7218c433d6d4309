import ShaderGraph.Image

/-!
# Texture sources

A texture source is an opaque handle that names where the pixels of a texture come from. Compiling
a material never resolves one; it only compares sources and hands them back.
-/
namespace ShaderGraph

inductive TextureSource where
  /-- An image file. -/
  | file (path : Text)
  /-- An image in memory. Two of them are the same source only if their keys agree. -/
  | memory (key : Text) (image : Option Image)
  /-- A source that always fails for the given reason. -/
  | failing (reason : Text)
  /-- A source that resolves to no image. -/
  | vacant (label : Text)
deriving DecidableEq, Repr

def TextureSource.label : TextureSource → Text
  | .file path => path
  | .memory key _ => "memory " ++ key
  | .failing reason => reason
  | .vacant label => label

end ShaderGraph
