import Uiml.Image.Inflate
import Uiml.Scene.Picture

/-!
# Pictures in chunks

The picture format of chunks with checksums: a header, possibly a palette and what is transparent
of it, and compressed rows, each of them filtered by its neighbours. Samples of all depths are
brought to bytes.

## Main definitions

* `Png.Chunk`, `Png.readChunks` — the chunks of a file
* `Png.Header`, `Png.Format` — what the pixels look like
* `Png.Prologue`, `Png.Prologue.add?` — what the chunks before the rows say
* `Png.unfilter` — the bytes of a row
* `Png.decode` — what comes of the bytes of a file
-/

namespace Uiml.Png

/-- The number that bytes write, the greatest first. -/
def bigEndian (bytes : List UInt8) : Nat := bytes.foldl (fun n b => 256 * n + b.toNat) 0

/-- One step of the checksum. -/
def crcBit (crc : UInt32) : UInt32 :=
  if crc % 2 = 1 then (crc >>> 1) ^^^ 0xEDB88320 else crc >>> 1

/-- The checksum of bytes. -/
def crc (bytes : List UInt8) : UInt32 :=
  let step (crc : UInt32) (byte : UInt8) : UInt32 :=
    (List.range 8).foldl (fun crc _ => crcBit crc) (crc ^^^ byte.toUInt32)
  bytes.foldl step 0xFFFFFFFF ^^^ 0xFFFFFFFF

/-- A chunk. -/
structure Chunk where
  type : String
  data : List UInt8
  deriving Repr

/-- Whether a picture cannot be shown without a chunk: the bit that makes letters small is not set
in the first byte of its type. -/
def Chunk.isCritical (chunk : Chunk) : Bool :=
  chunk.type.toList.head?.any fun c => c.toNat / 32 % 2 = 0

/-- Whether a chunk holds rows of a frame of a moving picture. -/
def Chunk.holdsFrame (chunk : Chunk) : Bool := chunk.type = "fdAT"

/-- Whether a chunk holds compressed rows. -/
def Chunk.holdsRows (chunk : Chunk) : Bool := chunk.type = "IDAT" || chunk.holdsFrame

/-- The signature at the start of a file. -/
def signature : List UInt8 := [0x89, 0x50, 0x4E, 0x47, 0x0D, 0x0A, 0x1A, 0x0A]

/-- The bytes of a chunk's length and of its type. -/
def chunkHeaderLength : Nat := 8

/-- The chunks of a file after its signature, up to the last one of the first run of those that hold
the rows; `run` is the type of the run that is being read. The chunk after that run has to begin,
but is not read. A chunk with a wrong checksum is left out if it is neither critical nor used before
its checksum is known. -/
def readChunks (run : Option String) (bytes : List UInt8) : Option (List Chunk) :=
  if bytes.length < chunkHeaderLength then none
  else
    let length := bigEndian (bytes.take 4)
    let body := bytes.drop 4
    let covered := body.take (4 + length)
    let chunk : Chunk :=
      ⟨String.ofList ((covered.take 4).map fun b => Char.ofNat b.toNat), covered.drop 4⟩
    let checksum := (body.drop (4 + length)).take 4
    if run.any fun type => chunk.type ≠ type then some []
    else if covered.length = 4 + length && checksum.length = 4 then
      let isSound := bigEndian checksum = (crc covered).toNat
      if chunk.isCritical && !isSound then none
      else
        let run := if chunk.holdsRows then some chunk.type else none
        (readChunks run (bytes.drop (12 + length))).map fun rest =>
          if isSound || chunk.holdsRows then chunk :: rest else rest
    else none
termination_by bytes.length
decreasing_by simp_all [chunkHeaderLength]; omega

/-- What the samples of a pixel are. -/
inductive Format where
  | gray
  | rgb
  | indexed
  | grayAlpha
  | rgba
  deriving DecidableEq, Repr

namespace Format

/-- The format of a number in a header. -/
def ofNat? : Nat → Option Format
  | 0 => some .gray
  | 2 => some .rgb
  | 3 => some .indexed
  | 4 => some .grayAlpha
  | 6 => some .rgba
  | _ => none

/-- The number of samples of a pixel. -/
def samples : Format → Nat
  | .gray => 1
  | .rgb => 3
  | .indexed => 1
  | .grayAlpha => 2
  | .rgba => 4

/-- The depths that the samples can have. -/
def depths : Format → List Nat
  | .gray => [1, 2, 4, 8, 16]
  | .indexed => [1, 2, 4, 8]
  | _ => [8, 16]

end Format

/-- The header of a file. -/
structure Header where
  width : Nat
  height : Nat
  /-- The bits of a sample. -/
  depth : Nat
  format : Format
  interlaced : Bool
  deriving Repr

namespace Header

/-- Reads a header. -/
def read? (data : List UInt8) : Option Header := do
  let format ← Format.ofNat? ((data.getD 9 255).toNat)
  let header : Header :=
    { width := bigEndian (data.take 4), height := bigEndian ((data.drop 4).take 4)
      depth := (data.getD 8 0).toNat, format, interlaced := data.getD 12 0 = 1 }
  if data.length = 13 && data.getD 10 1 = 0 && data.getD 11 1 = 0 && data.getD 12 2 ≤ 1 &&
      header.depth ∈ format.depths && 0 < header.width && 0 < header.height then
    return header
  else none

/-- The bits of a pixel. -/
def pixelBits (header : Header) : Nat := header.format.samples * header.depth

/-- The bytes of a row of so many pixels. -/
def rowBytes (header : Header) (pixels : Nat) : Nat := (pixels * header.pixelBits + 7) / 8

/-- How far back the byte of the pixel before is. -/
def pixelStep (header : Header) : Nat := max 1 (header.pixelBits / 8)

end Header

/-! ### Chunks before the rows -/

/-- What the chunks before the rows say. -/
structure Prologue where
  /-- The bytes of the colours of the palette. -/
  palette : Option (List UInt8) := none
  /-- What is transparent: the opacities of the palette, or the samples of one colour. -/
  transparency : Option (List UInt8) := none
  /-- Whether there is a colour behind the picture. -/
  hasBackground : Bool := false
  /-- Whether the meaning of colours is given. -/
  hasColorSpace : Bool := false
  /-- The number that the next chunk of a moving picture has. -/
  nextNumber : Nat := 0
  deriving Repr

namespace Prologue

/-- The most colours of a palette. -/
def maxColors : Nat := 256

/-- Takes a palette, of which there is one. Its last colour may be cut. -/
def addPalette? (prologue : Prologue) (data : List UInt8) : Option Prologue :=
  if prologue.palette.isNone && data ≠ [] && data.length ≤ 3 * maxColors then
    some { prologue with palette := some data }
  else none

/-- Takes what is transparent. It is left out if it is the second, if the pixels have opacities of
their own, if it comes before the palette or if it is too short for a colour. -/
def addTransparency (prologue : Prologue) (format : Format) (data : List UInt8) : Prologue :=
  let fits : Bool :=
    match format with
    | .indexed => prologue.palette.isSome
    | .gray | .rgb => 2 * format.samples ≤ data.length
    | .grayAlpha | .rgba => false
  if prologue.transparency.isNone && fits then { prologue with transparency := some data }
  else prologue

/-- Takes the colour behind the picture. The first one needs the palette that it is from. -/
def addBackground? (prologue : Prologue) (format : Format) (data : List UInt8) :
    Option Prologue :=
  let length := if format = .indexed then 1 else if format.samples < 3 then 2 else 6
  if prologue.hasBackground then some prologue
  else if format = .indexed && prologue.palette.isNone then none
  else some { prologue with hasBackground := data.length = length }

/-- Takes the meaning of colours. The first one, if it is before the palette, has to tell that
colours are not brightness and two differences, and whether samples use their full range. -/
def addColorSpace? (prologue : Prologue) (data : List UInt8) : Option Prologue :=
  if prologue.hasColorSpace || prologue.palette.isSome then some prologue
  else
    match data with
    | _ :: _ :: matrix :: range :: rest =>
      if matrix = 0 && range ≤ 1 then some { prologue with hasColorSpace := rest.isEmpty }
      else none
    | _ => some prologue

/-- Takes the number at the start of a chunk of a moving picture. -/
def count? (prologue : Prologue) (data : List UInt8) : Option Prologue :=
  if 4 ≤ data.length && bigEndian (data.take 4) = prologue.nextNumber then
    some { prologue with nextNumber := prologue.nextNumber + 1 }
  else none

/-- The bytes of the description of a frame. -/
def frameLength : Nat := 26

/-- Takes the description of a frame of a moving picture. The frame before the rows is as large as
the picture. After its place there are four bytes of time, then how it goes away and how it is laid
over the frame before. -/
def addFrame? (prologue : Prologue) (header : Header) (data : List UInt8) : Option Prologue :=
  let number (offset : Nat) : Nat := bigEndian ((data.drop offset).take 4)
  if frameLength ≤ data.length && number 4 = header.width && number 8 = header.height &&
      number 12 = 0 && number 16 = 0 && data.getD 24 0 ≤ 2 && data.getD 25 0 ≤ 1 then
    prologue.count? data
  else none

/-- Takes a chunk before the rows. Chunks that are not known are left out unless they are critical.
-/
def add? (header : Header) (prologue : Prologue) (chunk : Chunk) : Option Prologue :=
  match chunk.type with
  | "PLTE" => prologue.addPalette? chunk.data
  | "tRNS" => some (prologue.addTransparency header.format chunk.data)
  | "bKGD" => prologue.addBackground? header.format chunk.data
  | "cICP" => prologue.addColorSpace? chunk.data
  | "fcTL" => prologue.addFrame? header chunk.data
  | _ => if chunk.isCritical then none else some prologue

/-- The compressed data of the chunks that hold the rows. Those of a frame start with a number, and
come after the description of the frame. -/
def rowData? (prologue : Prologue) : List Chunk → Option (List UInt8)
  | [] => some []
  | chunk :: rest =>
    if chunk.holdsFrame then
      if prologue.nextNumber = 0 then none
      else do
        let prologue ← prologue.count? chunk.data
        return chunk.data.drop 4 ++ (← prologue.rowData? rest)
    else do return chunk.data ++ (← prologue.rowData? rest)

end Prologue

/-! ### Rows -/

/-- The neighbour closest to what the three neighbours lead to expect. -/
def paeth (left up corner : Nat) : Nat :=
  let expected : Int := (left : Int) + up - corner
  let away (n : Nat) : Nat := (expected - n).natAbs
  if away left ≤ away up && away left ≤ away corner then left
  else if away up ≤ away corner then up
  else corner

/-- What a filter adds to a byte, given the bytes to its left, above it, and above that to the
left. -/
def predicted (filter left up corner : Nat) : Option Nat :=
  match filter with
  | 0 => some 0
  | 1 => some left
  | 2 => some up
  | 3 => some ((left + up) / 2)
  | 4 => some (paeth left up corner)
  | _ => none

/-- The bytes of a row from its filtered bytes and the row above. -/
def unfilter (filter step : Nat) (above : Array UInt8) (row : List UInt8) :
    Option (Array UInt8) :=
  row.foldlM
    (fun (out : Array UInt8) byte => do
      let i := out.size
      let before (bytes : Array UInt8) : Nat :=
        if i < step then 0 else (bytes.getD (i - step) 0).toNat
      let added ← predicted filter (before out) (above.getD i 0).toNat (before above)
      return out.push (byte + .ofNat added))
    #[]

/-- Reads rows of so many bytes, each after the number of its filter, and what is left after
them. -/
def readRows (length step : Nat) : Nat → Array UInt8 → List UInt8 →
    Option (List (Array UInt8) × List UInt8)
  | 0, _, bytes => some ([], bytes)
  | _ + 1, _, [] => none
  | count + 1, above, filter :: bytes => do
    let body := bytes.take length
    if body.length < length then none
    else
      let row ← unfilter filter.toNat step above body
      let (rows, rest) ← readRows length step count row (bytes.drop length)
      return (row :: rows, rest)

/-- The sample of an index in a row. -/
def sample (depth : Nat) (row : Array UInt8) (i : Nat) : Nat :=
  match depth with
  | 8 => (row.getD i 0).toNat
  | 16 => 256 * (row.getD (2 * i) 0).toNat + (row.getD (2 * i + 1) 0).toNat
  | _ =>
    let perByte := 8 / depth
    let below := 8 - depth - depth * (i % perByte)
    (row.getD (i / perByte) 0).toNat / Nat.pow 2 below % Nat.pow 2 depth

/-! ### Pixels -/

/-- A sample brought to a byte. -/
def toByte (depth n : Nat) : UInt8 :=
  if depth = 16 then .ofNat ((n + 128) / 257) else .ofNat (n * 255 / (Nat.pow 2 depth - 1))

/-- The samples of the colour that is transparent, each of them two bytes. Samples of at most eight
bits are in the second of them, and bytes after the last sample do not count; of samples of sixteen
bits no pixel has as many as there are then. -/
def keyOf (depth samples : Nat) (data : List UInt8) : List Nat :=
  if depth = 16 then
    if data.length = 2 * samples then
      (List.range samples).map fun i => bigEndian ((data.drop (2 * i)).take 2)
    else []
  else (List.range samples).map fun i => (data.getD (2 * i + 1) 0).toNat

/-- The colours of a palette. -/
def paletteOf : List UInt8 → List (List UInt8)
  | r :: g :: b :: rest => [r, g, b] :: paletteOf rest
  | _ => []

/-- The opacities of the colours of a palette, of which there are none if there are more than
colours. -/
def opacitiesOf (palette : List (List UInt8)) (data : List UInt8) : List UInt8 :=
  if palette.length < data.length then [] else data

/-- What pixels are decoded with. -/
structure Look where
  header : Header
  palette : List (List UInt8)
  /-- The opacities of the colours of the palette. -/
  opacities : List UInt8
  /-- The samples of the colour that is transparent. -/
  key : Option (List Nat)

/-- What pixels are decoded with after the chunks before the rows. Pixels that are in a palette need
one. -/
def Prologue.look? (prologue : Prologue) (header : Header) : Option Look :=
  if header.format = .indexed && prologue.palette.isNone then none
  else
    let palette := paletteOf (prologue.palette.getD [])
    some
      { header, palette
        opacities := opacitiesOf palette (prologue.transparency.getD [])
        key := prologue.transparency.map (keyOf header.depth header.format.samples) }

/-- The bytes of a pixel from its samples. -/
def Look.pixel (look : Look) (samples : List Nat) : List UInt8 :=
  let bytes := samples.map (toByte look.header.depth)
  let opacity : UInt8 := if look.key = some samples then 0 else 255
  match look.header.format, bytes with
  | .gray, [v] => [v, v, v, opacity]
  | .grayAlpha, [v, a] => [v, v, v, a]
  | .rgb, [r, g, b] => [r, g, b, opacity]
  | .rgba, rgba => rgba
  | .indexed, _ =>
    let i := samples.headD 0
    match look.palette[i]? with
    | some color => color ++ [look.opacities.getD i 255]
    | none => [0, 0, 0, 255]
  | _, _ => []

/-- A lattice of pixels that is written on its own: where it starts, and how far apart its pixels
are. -/
structure Pass where
  left : Nat
  top : Nat
  across : Nat
  down : Nat

/-- The passes of a picture: all pixels at once, or seven lattices, each finer than the ones
before. -/
def passes (interlaced : Bool) : List Pass :=
  if interlaced then
    [⟨0, 0, 8, 8⟩, ⟨4, 0, 8, 8⟩, ⟨0, 4, 4, 8⟩, ⟨2, 0, 4, 4⟩, ⟨0, 2, 2, 4⟩, ⟨1, 0, 2, 2⟩,
      ⟨0, 1, 1, 2⟩]
  else [⟨0, 0, 1, 1⟩]

/-- The number of steps from a start that stay below an end. -/
def stepsBelow (start step fin : Nat) : Nat := (fin - start + step - 1) / step

/-- Puts the pixels of a row of a pass in their places. -/
def placeRow (look : Look) (pass : Pass) (pixels : Array (List UInt8)) (y : Nat)
    (row : Array UInt8) : Array (List UInt8) :=
  let header := look.header
  let samples := header.format.samples
  (List.range (stepsBelow pass.left pass.across header.width)).foldl
    (fun pixels x =>
      let pixel := look.pixel
        ((List.range samples).map fun i => sample header.depth row (x * samples + i))
      pixels.setIfInBounds
        ((pass.top + y * pass.down) * header.width + pass.left + x * pass.across) pixel)
    pixels

/-- Reads the rows of passes, one after the other. -/
def readPasses (header : Header) : List Pass → List UInt8 →
    Option (List (Pass × List (Array UInt8)))
  | [], _ => some []
  | pass :: passes, bytes => do
    let columns := stepsBelow pass.left pass.across header.width
    let count := if columns = 0 then 0 else stepsBelow pass.top pass.down header.height
    let (rows, rest) ← readRows (header.rowBytes columns) header.pixelStep count #[] bytes
    return (pass, rows) :: (← readPasses header passes rest)

/-- Puts the pixels of the rows of a pass in their places. -/
def placePass (look : Look) (pixels : Array (List UInt8)) (pass : Pass × List (Array UInt8)) :
    Array (List UInt8) :=
  pass.2.zipIdx.foldl (fun pixels (row, y) => placeRow look pass.1 pixels y row) pixels

/-- The pixels of a picture from its rows, which all are there before there is room for a pixel. -/
def Look.pixels (look : Look) (rows : List (Pass × List (Array UInt8))) : Array (List UInt8) :=
  rows.foldl (placePass look) (Array.replicate (look.header.width * look.header.height) [])

/-- Whether pixels are looked up in a palette whose last colour is cut. -/
def Prologue.hasCutColor (prologue : Prologue) (header : Header) : Bool :=
  header.format = .indexed && prologue.palette.any fun data => data.length % 3 ≠ 0

/-- Whether the first row is there and sound. -/
def hasRow (header : Header) (bytes : List UInt8) : Bool :=
  (passes header.interlaced).head?.any fun pass =>
    let columns := stepsBelow pass.left pass.across header.width
    (readRows (header.rowBytes columns) header.pixelStep 1 #[] bytes).isSome

/-- What comes of the bytes of a file, which has to start with the signature and to be sound. Where
the last colour of a palette is cut, nothing comes of the first row. -/
def decode (bytes : List UInt8) : Decoding :=
  match signature.isPrefixOf bytes, readChunks none (bytes.drop signature.length) with
  | true, some (⟨"IHDR", data⟩ :: chunks) =>
    let found : Option Decoding := do
      let header ← Header.read? data
      let (before, run) := chunks.span fun chunk => !chunk.holdsRows
      let prologue ← before.foldlM (Prologue.add? header) {}
      let look ← prologue.look? header
      let unpacked ← Inflate.inflate (← prologue.rowData? run)
      if prologue.hasCutColor header && hasRow header unpacked then return .stuck
      else
        let rows ← readPasses header (passes header.interlaced) unpacked
        return .picture ⟨header.width, header.height, (look.pixels rows).toList.flatten⟩
    found.getD .refused
  | _, _ => .refused

end Uiml.Png
