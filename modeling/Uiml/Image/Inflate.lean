/-!
# Inflating compressed data

The compressed format of pictures: a run of bits is cut into blocks, each of them stored as it is
or written in a prefix code of bytes and of references back into what has been read already.

## Main definitions

* `Inflate.Code`, `Inflate.Code.ofLengths` — prefix codes, and the one that code lengths stand for
* `Inflate.readBlocks` — the bytes of a run of blocks
* `Inflate.inflate` — the bytes of compressed data with its two bytes of header
-/

namespace Uiml.Inflate

/-- Bits in the order in which they are read. -/
abbrev Bits := List Bool

/-- The bits of bytes, the least of every byte first. -/
def bitsOf (bytes : List UInt8) : Bits :=
  bytes.flatMap fun byte => (List.range 8).map byte.toNat.testBit

/-- The number that bits write, the least first. -/
def valueOf : Bits → Nat
  | [] => 0
  | b :: rest => b.toNat + 2 * valueOf rest

/-- Why bits cannot be read on. -/
inductive Stop where
  /-- They run out. -/
  | ranOut
  /-- They write what cannot stand there. -/
  | invalid
  deriving DecidableEq, Repr

/-- Whether there are at least so many bits. -/
def has (count : Nat) (bits : Bits) : Bool := (bits.take count).length = count

/-- Takes a number of so many bits, the least first. -/
def takeNumber (count : Nat) (bits : Bits) : Except Stop (Nat × Bits) :=
  if has count bits then .ok (valueOf (bits.take count), bits.drop count) else .error .ranOut

/-! ### Prefix codes -/

/-- A prefix code as the tree of its words. -/
inductive Code where
  | unused
  | symbol (n : Nat)
  | branch (zero one : Code)
  deriving Repr, Inhabited

namespace Code

/-- The code with one more word, unless another word is in its way. -/
def insert (symbol : Nat) : List Bool → Code → Option Code
  | [], .unused => some (.symbol symbol)
  | false :: word, .unused => (insert symbol word .unused).map fun zero => .branch zero .unused
  | true :: word, .unused => (insert symbol word .unused).map fun one => .branch .unused one
  | false :: word, .branch zero one =>
    (insert symbol word zero).map fun zero => .branch zero one
  | true :: word, .branch zero one => (insert symbol word one).map fun one => .branch zero one
  | _, _ => none

/-- Reads one word. -/
def read : Code → Bits → Except Stop (Nat × Bits)
  | .unused, _ => .error .invalid
  | .symbol n, bits => .ok (n, bits)
  | .branch zero _, false :: rest => zero.read rest
  | .branch _ one, true :: rest => one.read rest
  | .branch _ _, [] => .error .ranOut

/-- The symbol of the next word and the length of that word, where zeros follow the last bit. -/
def peek : Code → Bits → Option (Nat × Nat)
  | .unused, _ => none
  | .symbol n, _ => some (n, 0)
  | .branch _ one, true :: rest => (one.peek rest).map fun (n, length) => (n, length + 1)
  | .branch zero _, bits => (zero.peek bits.tail).map fun (n, length) => (n, length + 1)

/-- Whether every sequence of bits starts with a word. -/
def isComplete : Code → Bool
  | .unused => false
  | .symbol _ => true
  | .branch zero one => zero.isComplete && one.isComplete

/-- The most bits of a word. -/
def maxLength : Nat := 15

/-- A code under construction, and the number that the next word writes. -/
structure Growing where
  code : Code := .unused
  next : Nat := 0

/-- The word of so many bits that writes a number, the greatest bit first. -/
def word (length n : Nat) : List Bool := ((List.range length).map n.testBit).reverse

/-- Gives the next words of a length to the symbols of that length, in order. -/
def Growing.addLength (lengths : List Nat) (g : Growing) (length : Nat) : Option Growing := do
  let symbols := (lengths.zipIdx.filter fun entry => entry.1 = length).map Prod.snd
  let grown ← symbols.foldlM
    (fun g symbol => do
      let code ← g.code.insert symbol (word length g.next)
      return ({ code, next := g.next + 1 } : Growing))
    ({ g with next := 2 * g.next } : Growing)
  return grown

/-- The code in which every symbol has a word of the given length, or none if the length is zero:
words are given out in order of length, then of symbol. -/
def ofLengths (lengths : List Nat) : Option Code := do
  let grown ← ((List.range maxLength).map (· + 1)).foldlM (Growing.addLength lengths) {}
  return grown.code

end Code

/-- The two codes of a block. -/
structure Codes where
  /-- Bytes, the end of the block, and lengths of references. -/
  literals : Code
  distances : Code

/-- The codes of a block that does not bring its own. -/
def fixedCodes? : Option Codes := do
  let literals ← Code.ofLengths (List.replicate 144 8 ++ List.replicate 112 9 ++
    List.replicate 24 7 ++ List.replicate 8 8)
  return ⟨literals, ← Code.ofLengths (List.replicate 30 5)⟩

/-- The lengths of references by their symbols: the least, and the bits that are added to it. -/
def lengthTable : List (Nat × Nat) :=
  [(3, 0), (4, 0), (5, 0), (6, 0), (7, 0), (8, 0), (9, 0), (10, 0), (11, 1), (13, 1), (15, 1),
    (17, 1), (19, 2), (23, 2), (27, 2), (31, 2), (35, 3), (43, 3), (51, 3), (59, 3), (67, 4),
    (83, 4), (99, 4), (115, 4), (131, 5), (163, 5), (195, 5), (227, 5), (258, 0)]

/-- The distances of references by their symbols. -/
def distanceTable : List (Nat × Nat) :=
  [(1, 0), (2, 0), (3, 0), (4, 0), (5, 1), (7, 1), (9, 2), (13, 2), (17, 3), (25, 3), (33, 4),
    (49, 4), (65, 5), (97, 5), (129, 6), (193, 6), (257, 7), (385, 7), (513, 8), (769, 8),
    (1025, 9), (1537, 9), (2049, 10), (3073, 10), (4097, 11), (6145, 11), (8193, 12), (12289, 12),
    (16385, 13), (24577, 13)]

/-- Takes a number that a row of a table and the bits that it asks for write. -/
def takeFromTable (table : List (Nat × Nat)) (row : Nat) (bits : Bits) :
    Except Stop (Nat × Bits) := do
  let some (least, extra) := table[row]? | throw .invalid
  let (more, rest) ← takeNumber extra bits
  return (least + more, rest)

/-- Takes the distance of a reference. That a word is not in use is seen only where more than nine
bits are left. -/
def Codes.takeDistance (codes : Codes) (bits : Bits) : Except Stop (Nat × Bits) :=
  match codes.distances.read bits with
  | .ok (row, rest) => takeFromTable distanceTable row rest
  | .error stop => .error (if has 10 bits then stop else .ranOut)

/-- Repeats `length` bytes from `distance` bytes back; the repeated bytes may overlap the new
ones. -/
def copyBack (out : Array UInt8) (distance length : Nat) : Array UInt8 :=
  (List.range length).foldl (fun out _ => out.push (out.getD (out.size - distance) 0)) out

/-- What a symbol of a block brings. -/
inductive Item where
  | byte (b : UInt8)
  | back (distance length : Nat)
  | blockEnd

/-- The most bits of two words that are read together. -/
def pairBits : Nat := 12

/-- Whether a word waits for the word after it, which has not come in yet: bytes with short words
are read in pairs, and zeros stand for the bits that are missing. -/
def Codes.awaitsNext (codes : Codes) (bits rest : Bits) : Bool :=
  match codes.literals.peek bits, codes.literals.peek rest with
  | some (_, first), some (symbol, second) =>
    symbol < 256 && 2 ≤ second && first + second ≤ pairBits && !has second rest
  | _, _ => false

/-- Takes one item of a block. -/
def Codes.takeItem (codes : Codes) (bits : Bits) : Except Stop (Item × Bits) := do
  let (symbol, rest) ← codes.literals.read bits
  if symbol < 256 then
    if codes.awaitsNext bits rest then throw .ranOut
    else return (.byte (.ofNat symbol), rest)
  else if symbol = 256 then return (.blockEnd, rest)
  else
    let (length, rest) ← takeFromTable lengthTable (symbol - 257) rest
    let (distance, rest) ← codes.takeDistance rest
    return (.back distance length, rest)

/-- How the reading of a block goes. -/
inductive Reading where
  /-- The block has ended after the given bytes, and bits are left. -/
  | ended (out : Array UInt8) (rest : Bits)
  /-- The bits have run out after the given bytes. -/
  | ranOut (out : Array UInt8)
  | invalid

/-- The reading that stops after the given bytes. -/
def Reading.ofStop (out : Array UInt8) : Stop → Reading
  | .ranOut => .ranOut out
  | .invalid => .invalid

/-- Reads at most so many items of a block after the bytes read already. -/
def Codes.readItems (codes : Codes) : Nat → Array UInt8 → Bits → Reading
  | 0, out, _ => .ranOut out
  | most + 1, out, bits =>
    match codes.takeItem bits with
    | .error stop => .ofStop out stop
    | .ok (.blockEnd, rest) => .ended out rest
    | .ok (.byte b, rest) => codes.readItems most (out.push b) rest
    | .ok (.back distance length, rest) =>
      if out.size < distance then .invalid
      else codes.readItems most (copyBack out distance length) rest

/-- The order in which a block gives the lengths of the words for lengths. -/
def lengthOrder : List Nat :=
  [16, 17, 18, 0, 8, 7, 9, 6, 10, 5, 11, 4, 12, 3, 13, 2, 14, 1, 15]

/-- The most bits of a word for a length: nothing is read before as many have come in. -/
def lengthWordBits : Nat := 7

/-- Takes a length, or the same length several times, after the lengths known already. -/
def takeLengths (code : Code) (known : List Nat) (bits : Bits) :
    Except Stop (List Nat × Bits) := do
  if !has lengthWordBits bits then throw .ranOut
  else
    let (symbol, rest) ← code.read bits
    let repeated (value : Option Nat) (least extra : Nat) : Except Stop (List Nat × Bits) := do
      let (more, rest) ← takeNumber extra rest
      let some value := value | throw .invalid
      return (List.replicate (least + more) value, rest)
    match symbol with
    | 16 => repeated known.getLast? 3 2
    | 17 => repeated (some 0) 3 3
    | 18 => repeated (some 0) 11 7
    | length => return ([length], rest)

/-- Takes lengths until there are as many as wanted, in at most so many steps. -/
def readLengths (code : Code) (wanted : Nat) : Nat → List Nat → Bits →
    Except Stop (List Nat × Bits)
  | 0, known, bits => .ok (known, bits)
  | most + 1, known, bits => do
    if known.length = wanted then return (known, bits)
    else
      let (more, rest) ← takeLengths code known bits
      if wanted < known.length + more.length then throw .invalid
      else readLengths code wanted most (known ++ more) rest

/-- Takes `count` numbers of three bits. -/
def takeTriples : Nat → Bits → Except Stop (List Nat × Bits)
  | 0, bits => .ok ([], bits)
  | count + 1, bits => do
    let (n, rest) ← takeNumber 3 bits
    let (ns, rest) ← takeTriples count rest
    return (n :: ns, rest)

/-- The code of given lengths in which every sequence of bits starts with a word. -/
def Code.complete? (lengths : List Nat) : Option Code :=
  (Code.ofLengths lengths).filter Code.isComplete

/-- The code of distances of given lengths. Besides the complete codes there are one without words,
and those of one word of one bit. -/
def Code.distances? (lengths : List Nat) : Option Code :=
  (Code.ofLengths lengths).filter fun
    | .unused | .branch (.symbol _) .unused => true
    | code => code.isComplete

/-- The symbol of the end of a block. -/
def endSymbol : Nat := 256

/-- The most symbols of bytes, ends and lengths, and the most symbols of distances, that a block
gives words to. -/
def maxSymbols : Nat × Nat := (286, 30)

/-- Takes the codes that a block brings. -/
def takeCodes (bits : Bits) : Except Stop (Codes × Bits) := do
  let (literalCount, rest) ← takeNumber 5 bits
  let (distanceCount, rest) ← takeNumber 5 rest
  let (lengthCount, rest) ← takeNumber 4 rest
  let literalCount := literalCount + 257
  let distanceCount := distanceCount + 1
  if maxSymbols.1 < literalCount || maxSymbols.2 < distanceCount then throw .invalid
  let (triples, rest) ← takeTriples (lengthCount + 4) rest
  let given := lengthOrder.zip triples
  let some lengthCode := Code.complete? ((List.range 19).map fun i => (given.lookup i).getD 0)
    | throw .invalid
  let wanted := literalCount + distanceCount
  let (lengths, rest) ← readLengths lengthCode wanted wanted [] rest
  if lengths.getD endSymbol 0 = 0 then throw .invalid
  let some literals := Code.complete? (lengths.take literalCount) | throw .invalid
  let some distances := Code.distances? (lengths.drop literalCount) | throw .invalid
  return (⟨literals, distances⟩, rest)

/-- At most so many bytes that bits write, eight for each, and the bits after them. -/
def takeBytes : Nat → Bits → List UInt8 × Bits
  | 0, bits => ([], bits)
  | count + 1, bits =>
    if has 8 bits then
      let (bytes, rest) := takeBytes count (bits.drop 8)
      (.ofNat (valueOf (bits.take 8)) :: bytes, rest)
    else ([], bits)

/-- Takes the length of a block stored as it is: it starts at a byte, and its complement follows it.
-/
def takeStoredLength (bits : Bits) : Except Stop (Nat × Bits) := do
  let (length, rest) ← takeNumber 16 (bits.drop (bits.length % 8))
  let (complement, rest) ← takeNumber 16 rest
  if length + complement = 65535 then return (length, rest) else throw .invalid

/-- Reads a block stored as it is. -/
def readStored (out : Array UInt8) (bits : Bits) : Reading :=
  match takeStoredLength bits with
  | .error stop => .ofStop out stop
  | .ok (length, rest) =>
    let (bytes, rest) := takeBytes length rest
    let out := out ++ bytes.toArray
    if bytes.length = length then .ended out rest else .ranOut out

/-- Reads a block of a type. -/
def readBlock (type : Nat) (out : Array UInt8) (bits : Bits) : Reading :=
  match type with
  | 0 => readStored out bits
  | 1 =>
    match fixedCodes? with
    | some codes => codes.readItems bits.length out bits
    | none => .invalid
  | 2 =>
    match takeCodes bits with
    | .ok (codes, rest) => codes.readItems rest.length out rest
    | .error stop => .ofStop out stop
  | _ => .invalid

/-- The bits that have to be there before a block is begun. -/
def blockBits : Nat := 10

/-- Reads at most so many blocks, up to the one that says it is the last. Where the bits run out,
the bytes read up to then count. -/
def readBlocks : Nat → Array UInt8 → Bits → Option (Array UInt8)
  | most + 1, out, last :: low :: high :: body =>
    if !has blockBits (last :: low :: high :: body) then some out
    else
      match readBlock (low.toNat + 2 * high.toNat) out body with
      | .ended out rest => if last then some out else readBlocks most out rest
      | .ranOut out => some out
      | .invalid => none
  | _, out, _ => some out

/-- The bytes of compressed data after its header, which names the method and is a multiple of
31. What follows the last block is not looked at. -/
def inflate : List UInt8 → Option (List UInt8)
  | method :: flags :: body =>
    if method.toNat % 16 = 8 && method.toNat / 16 ≤ 7 && flags.toNat / 32 % 2 = 0 &&
        (256 * method.toNat + flags.toNat) % 31 = 0 then
      let bits := bitsOf body
      (readBlocks bits.length #[] bits).map Array.toList
    else none
  | _ => some []

end Uiml.Inflate
