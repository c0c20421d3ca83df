import ClassAtlas.Record

/-
  ClassAtlas.Archive.Inflate — DEFLATE (RFC 1951), decompressing.

  A stream is a row of blocks, each stored or written in two prefix codes, one for
  literals and lengths and one for distances. A code is given by the lengths of its words
  alone. A stream is refused when it ends too early, when a code is not complete (unless
  it has one word at most), and when it holds a word without meaning. A distance that
  reaches back before the first byte finds zeros there.
-/

namespace ClassAtlas.Archive.Inflate

/-- Bits yet to be read, from the low end of each byte. -/
structure Bits where
  held : UInt8
  count : Nat
  rest : Bytes

namespace Bits

def ofBytes (bytes : Bytes) : Bits := ⟨0, 0, bytes⟩

def next? (b : Bits) : Option (Nat × Bits) :=
  match b.count, b.rest with
  | n + 1, rest => some ((b.held % 2).toNat, ⟨b.held / 2, n, rest⟩)
  | 0, byte :: rest => some ((byte % 2).toNat, ⟨byte / 2, 7, rest⟩)
  | 0, [] => none

/-- A number of `n` bits, the lowest first. -/
def number? : Nat → Bits → Option (Nat × Bits)
  | 0, b => some (0, b)
  | n + 1, b => do
    let (low, b) ← b.next?
    let (high, b) ← number? n b
    return (low + 2 * high, b)

/-- The bytes from the next whole one on. -/
def bytes (b : Bits) : Bytes := b.rest

end Bits

/-! ## Prefix codes -/

/-- The symbols that have words of one, two, three bits and so on, each group in order. -/
abbrev Code := List (Array Nat)

def longest : Nat := 15

namespace Code

def ofLengths (lengths : List Nat) : Code :=
  let numbered := lengths.zipIdx
  (List.range longest).map fun k => ((numbered.filter fun p => p.1 = k + 1).map (·.2)).toArray

def size (c : Code) : Nat := (c.map Array.size).foldl (· + ·) 0

/-- The part of all long words that the code takes up; it takes up all of them if it is complete. -/
def share (c : Code) : Nat := c.foldl (fun n g => 2 * n + g.size) 0

def isComplete (c : Code) : Bool := c.share = Nat.pow 2 longest

def isUsable (c : Code) : Bool := c.isComplete || c.size ≤ 1

/-- The symbol of the next word. `word` is what was read of it, `first` the first word of that length. -/
def symbolFrom? (word first : Nat) : Code → Bits → Option (Nat × Bits)
  | [], _ => none
  | g :: gs, b => do
    let (bit, b) ← b.next?
    let word := 2 * word + bit
    let first := 2 * first
    if h : word - first < g.size then
      if first ≤ word then return (g[word - first], b) else none
    else symbolFrom? word (first + g.size) gs b

def symbol? (c : Code) (b : Bits) : Option (Nat × Bits) := symbolFrom? 0 0 c b

end Code

/-! ## Blocks -/

/-- The least length, or distance, of each symbol, and how many bits are added to it. -/
def lengths : Array (Nat × Nat) :=
  #[(3, 0), (4, 0), (5, 0), (6, 0), (7, 0), (8, 0), (9, 0), (10, 0), (11, 1), (13, 1), (15, 1), (17, 1),
    (19, 2), (23, 2), (27, 2), (31, 2), (35, 3), (43, 3), (51, 3), (59, 3), (67, 4), (83, 4), (99, 4),
    (115, 4), (131, 5), (163, 5), (195, 5), (227, 5), (258, 0)]

def distances : Array (Nat × Nat) :=
  #[(1, 0), (2, 0), (3, 0), (4, 0), (5, 1), (7, 1), (9, 2), (13, 2), (17, 3), (25, 3), (33, 4), (49, 4),
    (65, 5), (97, 5), (129, 6), (193, 6), (257, 7), (385, 7), (513, 8), (769, 8), (1025, 9), (1537, 9),
    (2049, 10), (3073, 10), (4097, 11), (6145, 11), (8193, 12), (12289, 12), (16385, 13), (24577, 13)]

def valueOf? (table : Array (Nat × Nat)) (symbol : Nat) (b : Bits) : Option (Nat × Bits) := do
  let (base, extra) ← table[symbol]?
  let (n, b) ← b.number? extra
  return (base + n, b)

/-- Repeat `length` bytes from `distance` back. -/
def copy (distance : Nat) : Nat → Array UInt8 → Array UInt8
  | 0, out => out
  | n + 1, out =>
    let byte := if distance ≤ out.size then (out[out.size - distance]?).getD 0 else 0
    copy distance n (out.push byte)

/-- The words of a block, up to the one that ends it. -/
def words? (literals distanceCode : Code) : Nat → Bits → Array UInt8 → Option (Bits × Array UInt8)
  | 0, _, _ => none
  | n + 1, b, out => do
    let (s, b) ← literals.symbol? b
    if s < 256 then words? literals distanceCode n b (out.push (UInt8.ofNat s))
    else if s = 256 then return (b, out)
    else
      let (length, b) ← valueOf? lengths (s - 257) b
      let (d, b) ← distanceCode.symbol? b
      let (distance, b) ← valueOf? distances d b
      words? literals distanceCode n b (copy distance length out)

def fixedLiterals : Code :=
  Code.ofLengths (List.replicate 144 8 ++ List.replicate 112 9 ++ List.replicate 24 7 ++ List.replicate 8 8)

def fixedDistances : Code := Code.ofLengths (List.replicate 32 5)

/-- The order in which the lengths of the code for lengths are written. -/
def lengthOrder : List Nat := [16, 17, 18, 0, 8, 7, 9, 6, 10, 5, 11, 4, 12, 3, 13, 2, 14, 1, 15]

def numbers? (bits : Nat) : Nat → Bits → Option (List Nat × Bits)
  | 0, b => some ([], b)
  | n + 1, b => do
    let (v, b) ← b.number? bits
    let (vs, b) ← numbers? bits n b
    return (v :: vs, b)

/-- `count` lengths of words, of which those in `read` were read, the last one first. -/
def wordLengths? (code : Code) (count : Nat) : Nat → List Nat → Bits → Option (List Nat × Bits)
  | 0, _, _ => none
  | n + 1, read, b => do
    if read.length = count then return (read.reverse, b)
    else if read.length > count then none
    else
      let (s, b) ← code.symbol? b
      let repeated (value base bits : Nat) : Option (List Nat × Bits) := do
        let (more, b) ← b.number? bits
        wordLengths? code count n (List.replicate (base + more) value ++ read) b
      match s with
      | 16 => read.head?.bind fun last => repeated last 3 2
      | 17 => repeated 0 3 3
      | 18 => repeated 0 11 7
      | s => wordLengths? code count n (s :: read) b

def codes? (b : Bits) : Option (Code × Code × Bits) := do
  let (literals, b) ← b.number? 5
  let (distances, b) ← b.number? 5
  let (lengths, b) ← b.number? 4
  let literalCount := literals + 257
  let distanceCount := distances + 1
  if literalCount > 286 || distanceCount > 30 then none
  else
    let (ls, b) ← numbers? 3 (lengths + 4) b
    let lengthCode := Code.ofLengths ((List.range 19).map fun s => ((lengthOrder.zip ls).lookup s).getD 0)
    if !lengthCode.isComplete then none
    else
      let total := literalCount + distanceCount
      let (all, b) ← wordLengths? lengthCode total (total + 1) [] b
      let literalCode := Code.ofLengths (all.take literalCount)
      let distanceCode := Code.ofLengths (all.drop literalCount)
      if literalCode.isUsable && distanceCode.isUsable then return (literalCode, distanceCode, b) else none

/-- A stored block: its length twice, the second time turned over, and its bytes. -/
def stored? (b : Bits) (out : Array UInt8) : Option (Bits × Array UInt8) :=
  match b.bytes with
  | l0 :: l1 :: n0 :: n1 :: rest =>
    let length := l0.toNat + 256 * l1.toNat
    if n0 = ~~~l0 && n1 = ~~~l1 && (rest.take length).length = length then
      some (Bits.ofBytes (rest.drop length), (rest.take length).foldl Array.push out)
    else none
  | _ => none

/-- Blocks up to the last one. There are no more of them, nor words in one, than bits. -/
def blocks? : Nat → Bits → Array UInt8 → Option (Array UInt8)
  | 0, _, _ => none
  | n + 1, b, out => do
    let (isLast, b) ← b.number? 1
    let (kind, b) ← b.number? 2
    let limit := 8 * b.rest.length + 8
    let (b, out) ← match kind with
      | 0 => stored? b out
      | 1 => words? fixedLiterals fixedDistances limit b out
      | 2 => (codes? b).bind fun (literals, distances, b) => words? literals distances limit b out
      | _ => none
    if isLast = 1 then return out else blocks? n b out

/-- The bytes that a stream stands for. No stream at all stands for none. -/
def inflate? (bytes : Bytes) : Option Bytes :=
  if bytes.isEmpty then some [] else (blocks? (8 * bytes.length) (Bits.ofBytes bytes) #[]).map Array.toList

end ClassAtlas.Archive.Inflate
