import ShaderGraph.Image

/-!
# Images as PNG files

`Image.png` writes an image without compression: eight bits for each of red, green, blue and opacity,
no filter, and the rows in stored blocks.
-/
namespace ShaderGraph.Image

def bigEndian (count n : Nat) : List UInt8 :=
  (List.range count).reverse.map fun i => (n / Nat.pow 256 i).toUInt8

def crcBit (c : UInt32) : UInt32 :=
  if c &&& 1 = 1 then (c >>> 1) ^^^ 0xedb88320 else c >>> 1

def crcByte (c : UInt32) (b : UInt8) : UInt32 :=
  (List.range 8).foldl (fun c _ => crcBit c) (c ^^^ b.toUInt32)

def crc (data : List UInt8) : Nat := ((data.foldl crcByte 0xffffffff) ^^^ 0xffffffff).toNat

def streamSum (data : List UInt8) : Nat :=
  let (a, b) := data.foldl (fun (a, b) d =>
    let a := (a + d.toNat) % 65521
    (a, (b + a) % 65521)) (1, 0)
  b * 65536 + a

def storedLimit : Nat := 65535

/-- The data in stored blocks, `count` of them before the last. -/
def storedBlocks : Nat → List UInt8 → List UInt8
  | 0, data =>
    0x01 :: (bigEndian 2 data.length).reverse ++ (bigEndian 2 (storedLimit - data.length)).reverse ++
      data
  | count + 1, data =>
    [0x00, 0xff, 0xff, 0x00, 0x00] ++ data.take storedLimit ++
      storedBlocks count (data.drop storedLimit)

def stream (data : List UInt8) : List UInt8 :=
  [0x78, 0x01] ++ storedBlocks ((data.length - 1) / storedLimit) data ++
    bigEndian 4 (streamSum data)

def chunk (type : Text) (data : List UInt8) : List UInt8 :=
  bigEndian 4 data.length ++ type ++ data ++ bigEndian 4 (crc (type ++ data))

def filteredRows (stride : Nat) : Nat → List UInt8 → List UInt8
  | 0, _ => []
  | count + 1, pixels =>
    0x00 :: pixels.take stride ++ filteredRows stride count (pixels.drop stride)

def png (i : Image) : List UInt8 :=
  let header := bigEndian 4 i.width ++ bigEndian 4 i.height ++ [8, 6, 0, 0, 0]
  [0x89, 0x50, 0x4e, 0x47, 0x0d, 0x0a, 0x1a, 0x0a] ++ chunk "IHDR" header ++
    chunk "IDAT" (stream (filteredRows (4 * i.width) i.height i.pixels)) ++ chunk "IEND" []

end ShaderGraph.Image
