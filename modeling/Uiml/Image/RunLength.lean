/-!
# Rows of runs

The compressed rows of plain bitmaps: instructions that repeat a colour of the palette, give colours
one by one, skip pixels or end a row. The rows go from the bottom up.

## Main definitions

* `RunLength.Instruction`, `RunLength.takeInstruction` — what the bytes say
* `RunLength.Drawing` — the rows drawn so far
* `RunLength.rows?` — the rows that instructions draw
-/

namespace Uiml.RunLength

/-- How wide the numbers of colours are. -/
inductive Width where
  | nibble
  | byte
  deriving DecidableEq, Repr

/-- The bits of a number of a colour. -/
def Width.bits : Width → Nat
  | .nibble => 4
  | .byte => 8

/-- The numbers of colours in bytes. -/
def Width.numbers (width : Width) (bytes : List UInt8) : List Nat :=
  match width with
  | .nibble => bytes.flatMap fun b => [b.toNat / 16, b.toNat % 16]
  | .byte => bytes.map UInt8.toNat

/-- An instruction. -/
inductive Instruction where
  | rowEnd
  | pictureEnd
  | skip (right up : Nat)
  /-- The next pixels, by the numbers of their colours. A run that may overrun ends with the row if
  it is longer. -/
  | pixels (mayOverrun : Bool) (numbers : List Nat)
  deriving DecidableEq, Repr

/-- The bytes of so many numbers, filled up to a multiple of two. -/
def bytesFor (width : Width) (count : Nat) : Nat := (count * width.bits + 15) / 16 * 2

/-- Takes an instruction. -/
def takeInstruction (width : Width) : List UInt8 → Option (Instruction × List UInt8)
  | 0 :: 0 :: rest => some (.rowEnd, rest)
  | 0 :: 1 :: rest => some (.pictureEnd, rest)
  | 0 :: 2 :: rest =>
    match rest with
    | right :: up :: rest => some (.skip right.toNat up.toNat, rest)
    | _ => none
  | 0 :: count :: rest =>
    let length := bytesFor width count.toNat
    if rest.length < length then none
    else
      let numbers := (width.numbers (rest.take length)).take count.toNat
      some (.pixels false numbers, rest.drop length)
  | count :: value :: rest =>
    let numbers := (List.replicate count.toNat (width.numbers [value])).flatten.take count.toNat
    some (.pixels (width = .byte) numbers, rest)
  | _ => none

/-- A row: the numbers of the colours of its pixels, as far as they have one. -/
abbrev Row := List (Option Nat)

/-- The rows drawn so far. -/
structure Drawing where
  columns : Nat
  /-- The rows that have ended, the last one first. -/
  ended : List Row := []
  /-- The pixels of the row that is being drawn. -/
  row : Row := []
  /-- Where the next pixel would be if rows did not end. -/
  column : Nat := 0

namespace Drawing

/-- Ends the row. -/
def endRow (drawing : Drawing) : Drawing :=
  let blank := List.replicate (drawing.columns - drawing.row.length) none
  { drawing with ended := (drawing.row ++ blank) :: drawing.ended, row := [], column := 0 }

/-- Ends so many rows. -/
def endRows (drawing : Drawing) : Nat → Drawing
  | 0 => drawing
  | count + 1 => drawing.endRow.endRows count

/-- Draws pixels that have room in the row. -/
def add? (drawing : Drawing) (pixels : Row) : Option Drawing :=
  let row := drawing.row ++ pixels
  if drawing.columns < row.length then none
  else some { drawing with row, column := drawing.column + pixels.length }

/-- Draws as many pixels as have room in the row. -/
def addClipped (drawing : Drawing) (pixels : Row) : Drawing :=
  { drawing with
    row := (drawing.row ++ pixels).take drawing.columns
    column := drawing.column + pixels.length }

/-- Skips pixels, after going up so many rows of which there have to be as many. -/
def skip? (drawing : Drawing) (rows right up : Nat) : Option Drawing := do
  let risen ←
    if up = 0 then some drawing
    else if rows ≤ drawing.ended.length + up then none
    else (drawing.endRows up).add? (List.replicate drawing.column none)
  risen.add? (List.replicate right none)

end Drawing

/-- Follows at most so many instructions until as many rows have ended as there are. -/
def draw? (width : Width) (rows : Nat) : Nat → Drawing → List UInt8 → Option Drawing
  | 0, _, _ => none
  | most + 1, drawing, bytes => do
    if rows ≤ drawing.ended.length then return drawing
    else
      let (instruction, rest) ← takeInstruction width bytes
      match instruction with
      | .rowEnd => draw? width rows most drawing.endRow rest
      | .pictureEnd => return drawing.endRows (rows - drawing.ended.length)
      | .skip right up => draw? width rows most (← drawing.skip? rows right up) rest
      | .pixels true numbers =>
        draw? width rows most (drawing.addClipped (numbers.map some)) rest
      | .pixels false numbers =>
        draw? width rows most (← drawing.add? (numbers.map some)) rest

/-- The rows that instructions draw, the top one first. -/
def rows? (width : Width) (columns rows : Nat) (bytes : List UInt8) : Option (List Row) :=
  (draw? width rows (bytes.length + 1) { columns } bytes).map Drawing.ended

end Uiml.RunLength
