import Uiml.Image.RunLength
import Uiml.Number.Binary
import Uiml.Scene.Picture

/-!
# Plain bitmaps

The picture format of plain rows: two headers, possibly a palette, and rows of pixels from the
bottom up, each filled up to a multiple of four bytes. The pixels are numbers of colours of the
palette, or have their channels in ranges of their bits.

## Main definitions

* `Bmp.Channel` — a range of the bits of a pixel
* `Bmp.Storage`, `Bmp.Header` — what the rows look like
* `Bmp.Header.read?` — the headers of a file
* `Bmp.decode?` — the picture of a file
-/

namespace Uiml.Bmp

/-- The number that bytes write, the least first. -/
def littleEndian (bytes : List UInt8) : Nat := bytes.foldr (fun b n => b.toNat + 256 * n) 0

/-- The number of so many bytes at an offset, if there are as many. -/
def numberAt? (bytes : List UInt8) (offset count : Nat) : Option Nat :=
  let taken := (bytes.drop offset).take count
  if taken.length = count then some (littleEndian taken) else none

/-- A number of 32 bits read with its sign. -/
def signed (n : Nat) : Int := if n < 0x80000000 then n else (n : Int) - 0x100000000

/-! ### Channels -/

/-- The range of the bits of a pixel that holds a channel. -/
structure Channel where
  /-- The number of the least bit. -/
  place : Nat
  bits : Nat
  deriving DecidableEq, Repr

namespace Channel

/-- The most bits that are used of a channel. -/
def maxBits : Nat := 8

/-- The channel of a mask with one range of bits, all of them among the bits of a pixel. Of a range
that is too long the greatest bits are used. -/
def ofMask? (depth mask : Nat) : Option Channel := do
  let places := (List.range 32).filter mask.testBit
  let place ← places.head?
  let bits := places.length
  if mask = (Nat.pow 2 bits - 1) * Nat.pow 2 place && bits + place ≤ depth then
    return ⟨place + (bits - maxBits), min bits maxBits⟩
  else none

/-- The channel of a pixel, brought to a byte. -/
def value (channel : Channel) (pixel : Nat) : UInt8 :=
  let greatest := Nat.pow 2 channel.bits - 1
  .ofNat (roundDiv (pixel / Nat.pow 2 channel.place % Nat.pow 2 channel.bits * 255) greatest)

end Channel

/-- The channels of a pixel. -/
structure Channels where
  red : Channel
  green : Channel
  blue : Channel
  alpha : Option Channel
  deriving DecidableEq, Repr

namespace Channels

/-- Channels of five bits. -/
def fiveBits : Channels := ⟨⟨10, 5⟩, ⟨5, 5⟩, ⟨0, 5⟩, none⟩

/-- Channels of a byte. -/
def bytes : Channels := ⟨⟨16, 8⟩, ⟨8, 8⟩, ⟨0, 8⟩, none⟩

/-- The channels of masks, of which only that of opacity can be empty. -/
def ofMasks? (depth red green blue alpha : Nat) : Option Channels := do
  let alpha ← if alpha = 0 then some none else (Channel.ofMask? depth alpha).map some
  let channel := Channel.ofMask? depth
  return ⟨← channel red, ← channel green, ← channel blue, alpha⟩

/-- The bytes of a pixel. -/
def color (channels : Channels) (pixel : Nat) : List UInt8 :=
  [channels.red.value pixel, channels.green.value pixel, channels.blue.value pixel,
    (channels.alpha.map (·.value pixel)).getD 255]

end Channels

/-! ### Headers -/

/-- How pixels are stored. -/
inductive Storage where
  /-- As numbers of so many bits of so many colours. -/
  | numbers (depth colors : Nat)
  /-- As runs of numbers of so many colours. -/
  | runs (width : RunLength.Width) (colors : Nat)
  /-- As channels in so many bits. -/
  | channels (depth : Nat) (channels : Channels)
  deriving DecidableEq, Repr

/-- The number of the colours of the palette. -/
def Storage.colors : Storage → Nat
  | .numbers _ colors => colors
  | .runs _ colors => colors
  | .channels _ _ => 0

/-- The headers of a file. -/
structure Header where
  /-- Where the rows start. -/
  offset : Nat
  width : Nat
  height : Nat
  /-- Whether the first row is the top one. -/
  topDown : Bool
  storage : Storage
  /-- Where the palette starts, and the bytes of a colour in it. -/
  paletteOffset : Nat
  colorBytes : Nat
  deriving Repr

/-- The length of the file's own header. -/
def fileHeaderLength : Nat := 14

/-- The most pixels of a row, and the most rows of a file whose first row is the bottom one. -/
def maxSide : Nat := 0xFFFF

/-- The lengths that the second header can have, besides the short one. -/
def headerLengths : List Nat := [40, 52, 56, 108, 124]

/-- Where the masks of channels are, and that of opacity, which shorter headers do not have. -/
def maskOffset : Nat := 54

/-- The least length of a second header with a mask of opacity. -/
def alphaHeaderLength : Nat := 56

/-- The depths of pixels that are numbers of colours. -/
def numberDepths : List Nat := [1, 2, 4, 8]

/-- The storage that a header with masks gives. -/
def readMasks? (bytes : List UInt8) (length depth : Nat) : Option Storage := do
  let mask (i : Nat) : Option Nat := numberAt? bytes (maskOffset + 4 * i) 4
  let alpha ← if alphaHeaderLength ≤ length then mask 3 else some 0
  if depth = 16 || depth = 32 then
    return .channels depth (← Channels.ofMasks? depth (← mask 0) (← mask 1) (← mask 2) alpha)
  else none

/-- The storage that the numbers of a header mean. -/
def readStorage? (bytes : List UInt8) (length depth compression colors : Nat) : Option Storage :=
  let known := if colors = 0 then Nat.pow 2 (min depth 8) else colors
  let fits : Bool := known ≤ Nat.pow 2 (min depth 8)
  match compression with
  | 0 =>
    if numberDepths.contains depth then if fits then some (.numbers depth known) else none
    else if depth = 16 then some (.channels 16 .fiveBits)
    else if depth = 24 || depth = 32 then some (.channels depth .bytes)
    else none
  | 1 => if depth = 8 && fits then some (.runs .byte known) else none
  | 2 => if depth = 4 && fits then some (.runs .nibble known) else none
  | 3 => readMasks? bytes length depth
  | _ => none

/-- Reads the short second header. -/
def Header.readShort? (bytes : List UInt8) (offset : Nat) : Option Header := do
  let width ← numberAt? bytes 18 2
  let height ← numberAt? bytes 20 2
  let planes ← numberAt? bytes 22 2
  let depth ← numberAt? bytes 24 2
  let storage ←
    if [1, 4, 8].contains depth then some (Storage.numbers depth (Nat.pow 2 depth))
    else if depth = 24 then some (Storage.channels depth .bytes)
    else none
  if 0 < width && 0 < height && planes = 1 then
    return { offset, width, height, topDown := false, storage
             paletteOffset := fileHeaderLength + 12, colorBytes := 3 }
  else none

/-- Reads a second header of another length. Rows from the top down are not compressed. -/
def Header.readLong? (bytes : List UInt8) (offset length : Nat) : Option Header := do
  let width := signed (← numberAt? bytes 18 4)
  let height := signed (← numberAt? bytes 22 4)
  let planes ← numberAt? bytes 26 2
  let depth ← numberAt? bytes 28 2
  let compression ← numberAt? bytes 30 4
  let colors ← numberAt? bytes 46 4
  let _important ← numberAt? bytes 50 4
  let storage ← readStorage? bytes length depth compression colors
  let isPlain := compression = 0 || compression = 3
  if headerLengths.contains length && 0 < width && width ≤ maxSide && height ≠ 0 &&
      height ≤ maxSide && planes = 1 && (0 < height || isPlain) then
    return { offset, width := width.toNat, height := height.natAbs, topDown := height < 0, storage
             paletteOffset := fileHeaderLength + length, colorBytes := 4 }
  else none

/-- Reads the headers of a file. -/
def Header.read? (bytes : List UInt8) : Option Header := do
  let offset ← numberAt? bytes 10 4
  let length ← numberAt? bytes fileHeaderLength 4
  if length = 12 then Header.readShort? bytes offset else Header.readLong? bytes offset length

/-! ### Rows -/

/-- What is seen of a pixel without a colour. -/
def black : List UInt8 := [0, 0, 0, 255]

/-- The colours of so many groups of bytes, of each of which the first three are channels. -/
def colorsOf (colorBytes : Nat) : Nat → List UInt8 → List (List UInt8)
  | 0, _ => []
  | count + 1, bytes =>
    (match bytes.take 3 with
      | [b, g, r] => [r, g, b, 255]
      | _ => black) :: colorsOf colorBytes count (bytes.drop colorBytes)

/-- The palette of a file, which is all there. -/
def Header.palette? (header : Header) (bytes : List UInt8) : Option (List (List UInt8)) :=
  let colors := header.storage.colors
  let body := (bytes.drop header.paletteOffset).take (colors * header.colorBytes)
  if body.length = colors * header.colorBytes then
    some (colorsOf header.colorBytes colors body)
  else none

/-- The bytes of a row of pixels of so many bits, filled up to a multiple of four. -/
def Header.rowBytes (header : Header) (depth : Nat) : Nat := (header.width * depth + 31) / 32 * 4

/-- Cuts bytes into so many rows, if there are as many. -/
def cutRows? (length : Nat) : Nat → List UInt8 → Option (List (List UInt8))
  | 0, _ => some []
  | count + 1, bytes =>
    let row := bytes.take length
    if row.length < length then none
    else (cutRows? length count (bytes.drop length)).map (row :: ·)

/-- The numbers of so many bits in bytes, in each of them the greatest bits first. -/
def numbersOf (depth : Nat) (row : List UInt8) : List Nat :=
  row.flatMap fun byte =>
    (List.range (8 / depth)).map fun i =>
      byte.toNat / Nat.pow 2 (8 - depth - depth * i) % Nat.pow 2 depth

/-- The numbers that groups of so many bytes write. -/
def groupsOf (size : Nat) : Nat → List UInt8 → List Nat
  | 0, _ => []
  | count + 1, bytes => littleEndian (bytes.take size) :: groupsOf size count (bytes.drop size)

/-- The bytes of the rows of a file, the top row first. -/
def Header.rows? (header : Header) (palette : Array (List UInt8)) (body : List UInt8) :
    Option (List (List UInt8)) :=
  let upright (rows : List (List UInt8)) : List (List UInt8) :=
    if header.topDown then rows else rows.reverse
  match header.storage with
  | .numbers depth _ =>
    let row (bytes : List UInt8) : List UInt8 :=
      ((numbersOf depth bytes).take header.width).flatMap fun i => palette.getD i black
    (cutRows? (header.rowBytes depth) header.height body).map fun rows => upright (rows.map row)
  | .channels depth channels =>
    let row (bytes : List UInt8) : List UInt8 :=
      (groupsOf (depth / 8) header.width bytes).flatMap channels.color
    (cutRows? (header.rowBytes depth) header.height body).map fun rows => upright (rows.map row)
  | .runs width _ =>
    let row (pixels : RunLength.Row) : List UInt8 :=
      pixels.flatMap fun i => (i.map (palette.getD · black)).getD black
    (RunLength.rows? width header.width header.height body).map (List.map row)

/-- The most bytes of the channels of a picture, of which a pixel has at least three. -/
def maxBytes : Nat := 512 * 1024 * 1024

/-- The picture of a file, if the file starts with its two letters, has its palette and all its
rows, and is not too large. -/
def decode? (bytes : List UInt8) : Option Picture :=
  match bytes with
  | 0x42 :: 0x4D :: _ => do
    let header ← Header.read? bytes
    let palette ← header.palette? bytes
    if maxBytes < 3 * header.width * header.height then none
    let rows ← header.rows? palette.toArray (bytes.drop header.offset)
    return ⟨header.width, header.height, rows.flatten⟩
  | _ => none

end Uiml.Bmp
