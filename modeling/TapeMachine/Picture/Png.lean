import TapeMachine.Picture.Raster

/-!
# PNG files

`Png.encode` writes a raster as a PNG file: a signature, and chunks with their
length before them and a check sum behind them.  The pixels are kept in stored
blocks, so nothing is compressed.
-/

namespace TapeMachine.Picture.Png

/-- A number in so many bytes, the most significant first. -/
def bigEndian : (bytes : Nat) → Nat → List UInt8
  | 0, _ => []
  | bytes + 1, n => bigEndian bytes (n / 256) ++ [UInt8.ofNat (n % 256)]

/-- The polynomial of the cyclic check sum, the lowest power in the highest bit. -/
def crcPolynomial : UInt32 := 0xedb88320

/-- Divide by the polynomial for one bit. -/
def crcBit (r : UInt32) : UInt32 := if r % 2 = 1 then (r >>> 1) ^^^ crcPolynomial else r >>> 1

/-- Take up one byte. -/
def crcByte (r : UInt32) (b : UInt8) : UInt32 := Nat.repeat crcBit 8 (r ^^^ b.toUInt32)

/-- The cyclic check sum of some bytes. -/
def crc (bytes : List UInt8) : UInt32 := ~~~ bytes.foldl crcByte 0xffffffff

/-- The modulus of the sum that ends a stream of blocks. -/
def adlerModulus : Nat := 65521

/-- The sum that ends a stream of blocks: that of the bytes and one, and that of all sums on the
way. -/
def adler (bytes : List UInt8) : Nat :=
  let (a, b) := bytes.foldl
    (fun (a, b) byte =>
      let a := (a + byte.toNat) % adlerModulus
      (a, (b + a) % adlerModulus))
    (1, 0)
  b * 65536 + a

/-- The most bytes that a stored block holds. -/
def blockLimit : Nat := 65535

/-- One stored block. -/
def block (final : Bool) (bytes : List UInt8) : List UInt8 :=
  let n := bytes.length
  (if final then 1 else 0) ::
    ((bigEndian 2 n).reverse ++ (bigEndian 2 (blockLimit - n)).reverse ++ bytes)

/-- Bytes in stored blocks. -/
def blocks (bytes : List UInt8) : List UInt8 :=
  if bytes.length ≤ blockLimit then block true bytes
  else block false (bytes.take blockLimit) ++ blocks (bytes.drop blockLimit)
termination_by bytes.length
decreasing_by
  simp only [List.length_drop, blockLimit] at *
  omega

/-- Bytes as a stream of stored blocks. -/
def stream (bytes : List UInt8) : List UInt8 :=
  [0x78, 0x01] ++ blocks bytes ++ bigEndian 4 (adler bytes)

/-- A chunk with a name. -/
def chunk (name : String) (bytes : List UInt8) : List UInt8 :=
  let body := name.toUTF8.toList ++ bytes
  bigEndian 4 bytes.length ++ body ++ bigEndian 4 (crc body).toNat

/-- The three bytes of a pixel. -/
def pixelBytes (c : Color) : List UInt8 :=
  [UInt8.ofNat c.red, UInt8.ofNat c.green, UInt8.ofNat c.blue]

/-- A row of pixels; the byte before them says that they stand for themselves. -/
def rowBytes (row : Array Color) : List UInt8 := 0 :: row.toList.flatMap pixelBytes

/-- The file of a raster. -/
def encode (r : Raster Color) : List UInt8 :=
  [0x89, 0x50, 0x4e, 0x47, 0x0d, 0x0a, 0x1a, 0x0a] ++
    chunk "IHDR" (bigEndian 4 r.width ++ bigEndian 4 r.height ++ [8, 2, 0, 0, 0]) ++
    chunk "IDAT" (stream (r.rows.toList.flatMap rowBytes)) ++
    chunk "IEND" []

end TapeMachine.Picture.Png
