import ShaderGraph.Text.Basic

/-!
# Images

An image is a rectangle of pixels with red, green, blue and opacity of eight bits each. `Image.decode`
reads uncompressed bitmaps with a header of forty bytes and 24 or 32 bits per pixel. The other formats
are out of scope: png, jpeg, gif, tiff, webp and the other kinds of bitmaps. A file that a texture has
been written to is known by its image and not by its bytes.
-/
namespace ShaderGraph

structure Image where
  width : Nat
  height : Nat
  pixels : List UInt8
deriving DecidableEq, Repr

namespace Image

inductive Problem where
  | unknownFormat
  | truncated
  | unsupported
deriving DecidableEq, Repr

def Problem.message : Problem → Text
  | .unknownFormat =>
    "image: unknown format: supported formats are png, jpeg, gif, bmp, tiff and webp"
  | .truncated => "unexpected EOF"
  | .unsupported => "bmp: unsupported BMP image"

def littleEndian (data : List UInt8) (offset count : Nat) : Nat :=
  ((data.drop offset).take count).foldr (fun b acc => b.toNat + 256 * acc) 0

def signed32 (n : Nat) : Int := if n < 2147483648 then n else (n : Int) - 4294967296

def rowPixels (bytesPerPixel : Nat) : Nat → List UInt8 → List UInt8
  | 0, _ => []
  | count + 1, row =>
    match row with
    | b :: g :: r :: _ => r :: g :: b :: 0xff :: rowPixels bytesPerPixel count (row.drop bytesPerPixel)
    | _ => []

def rows (stride bytesPerPixel width : Nat) : Nat → List UInt8 → List (List UInt8)
  | 0, _ => []
  | count + 1, data =>
    rowPixels bytesPerPixel width data :: rows stride bytesPerPixel width count (data.drop stride)

def isBitmap (data : List UInt8) : Bool :=
  10 ≤ data.length && data.take 2 == [0x42, 0x4d] && (data.drop 6).take 4 == [0, 0, 0, 0]

/-- Reads an uncompressed bitmap of 24 or 32 bits per pixel. Rows are stored from the bottom, or from
the top when the height is negative, and padded to four bytes. -/
def decodeBitmap (data : List UInt8) : Except Problem Image :=
  if data.length < 18 then .error .truncated
  else
    let offset := littleEndian data 10 4
    if littleEndian data 14 4 ≠ 40 then .error .unsupported
    else if data.length < 54 then .error .truncated
    else
      let width := signed32 (littleEndian data 18 4)
      let signedHeight := signed32 (littleEndian data 22 4)
      let height := signedHeight.natAbs
      let planes := littleEndian data 26 2
      let bits := littleEndian data 28 2
      let compression := littleEndian data 30 4
      if width < 0 then .error .unsupported
      else if planes ≠ 1 ∨ compression ≠ 0 ∨ offset ≠ 54 ∨ (bits ≠ 24 ∧ bits ≠ 32) then
        .error .unsupported
      else
        let width := width.toNat
        let bytesPerPixel := bits / 8
        let stride := (width * bytesPerPixel + 3) / 4 * 4
        let body := data.drop 54
        if width = 0 ∨ height = 0 then .ok ⟨width, height, []⟩
        else if body.length < stride * height then .error .truncated
        else
          let stored := rows stride bytesPerPixel width height body
          let ordered := if signedHeight < 0 then stored else stored.reverse
          .ok ⟨width, height, ordered.flatten⟩

def decode (data : List UInt8) : Except Problem Image :=
  if isBitmap data then decodeBitmap data else .error .unknownFormat

end Image
end ShaderGraph
