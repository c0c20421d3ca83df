import ClassAtlas.Archive.CodePage
import ClassAtlas.Text.Utf8

/-
  ClassAtlas.Archive.Directory — the central directory of a ZIP archive.

  An archive is read from its end. The last end record within reach says where the
  directory is; bytes in front of the archive shift all offsets, and how far is told by
  where the end record stands. A locator in front of it leads to a wider end record
  instead. Each header of the directory describes one entry, and its extra fields may
  widen sizes and offset, or tell how the entry is encrypted.
-/

namespace ClassAtlas.Archive

inductive ArchiveError where
  | cutShort
  | tooShort
  | noEnd
  | badPlace
  | noRoomForWideEnd
  | noWideEnd
  | badHeader
  | badLocalHeader
  | offsetTooLarge
  | missingAesField
  | badAesVendor
  | badAesVersion
  | badAesStrength
  | badAesLength
  | severalDisks
  | unknownMethod
  | passwordRequired
  | wrongPassword
  deriving DecidableEq, Repr

namespace ArchiveError

def invalid (what : String) : String := "invalid Zip archive: " ++ what

def unsupported (what : String) : String := "unsupported Zip archive: " ++ what

def message : ArchiveError → String
  | cutShort => "failed to fill whole buffer"
  | tooShort => invalid "Invalid zip header"
  | noEnd => invalid "Could not find central directory end"
  | badPlace => invalid "Invalid central directory size or offset"
  | noRoomForWideEnd => invalid "File cannot contain ZIP64 central directory end"
  | noWideEnd => invalid "Could not find ZIP64 central directory end"
  | badHeader => invalid "Invalid Central Directory header"
  | badLocalHeader => invalid "Invalid local file header"
  | offsetTooLarge => invalid "Archive header is too large"
  | missingAesField => invalid "AES encryption without AES extra data field"
  | badAesVendor => invalid "Invalid AES vendor"
  | badAesVersion => invalid "Invalid AES vendor version"
  | badAesStrength => invalid "Invalid AES encryption strength"
  | badAesLength => unsupported "AES extra data field has an unsupported length"
  | severalDisks => unsupported "Support for multi-disk files is not implemented"
  | unknownMethod => unsupported "Compression method not supported"
  | passwordRequired => unsupported "Password required to decrypt file"
  | wrongPassword => "invalid password for file in archive"

/-- An archive that is cut short is its own cause. -/
def chain (e : ArchiveError) : List String := if e = cutShort then [e.message, e.message] else [e.message]

end ArchiveError

/-! ## Fields -/

/-- The bytes of an archive, to be read at any place. -/
abbrev Image := Array UInt8

namespace Image

def bytes (a : Image) (start length : Nat) : Except ArchiveError Bytes :=
  if start + length ≤ a.size then .ok (a.extract start (start + length)).toList else .error .cutShort

def littleEndian (bs : Bytes) : Nat := bs.foldr (fun b n => b.toNat + 256 * n) 0

/-- The number in `length` bytes, the lowest first. -/
def number (a : Image) (start length : Nat) : Except ArchiveError Nat := (a.bytes start length).map littleEndian

end Image

def most16 : Nat := 0xFFFF

def most32 : Nat := 0xFFFFFFFF

def limit64 : Nat := 0x10000000000000000

/-! ## The end record -/

structure EndRecord where
  disk : Nat
  directoryDisk : Nat
  entriesHere : Nat
  entries : Nat
  size : Nat
  offset : Nat
  commentLength : Nat
  deriving DecidableEq, Repr

namespace EndRecord

def signature : Nat := 0x06054B50

def length : Nat := 22

/-- Where the last end record starts, from `place` downwards, but not below `least`. -/
def find? (a : Image) (least : Nat) : Nat → Option Nat
  | 0 => if least = 0 && (a.number 0 4).toOption = some signature then some 0 else none
  | n + 1 =>
    if n + 1 < least then none
    else if (a.number (n + 1) 4).toOption = some signature then some (n + 1)
    else find? a least n

def read (a : Image) (start : Nat) : Except ArchiveError EndRecord := do
  let commentLength ← a.number (start + 20) 2
  let _ ← a.bytes (start + length) commentLength
  return ⟨← a.number (start + 4) 2, ← a.number (start + 6) 2, ← a.number (start + 8) 2, ← a.number (start + 10) 2,
    ← a.number (start + 12) 4, ← a.number (start + 16) 4, commentLength⟩

/-- Some number did not fit, so a wider record has it. -/
def isTooNarrow (e : EndRecord) : Bool :=
  e.disk = most16 || e.directoryDisk = most16 || e.entriesHere = most16 || e.entries = most16 || e.size = most32 ||
    e.offset = most32

end EndRecord

/-- Where the directory is: the shift of all offsets, its start, and how many headers it has. -/
structure Place where
  shift : Nat
  start : Nat
  count : Nat
  deriving DecidableEq, Repr

namespace Place

def locatorSignature : Nat := 0x07064B50

def wideSignature : Nat := 0x06064B50

/-- Where the wider end record starts, at `start` or one of the `n` places behind it. -/
def findWide (a : Image) : Nat → Nat → Except ArchiveError Nat
  | start, 0 => do
    if (← a.number start 4) = wideSignature then return start else throw .noWideEnd
  | start, n + 1 => do
    if (← a.number start 4) = wideSignature then return start else findWide a (start + 1) n

/-- The place that a locator at `start` leads to. -/
def wide (a : Image) (e : EndRecord) (endStart locator : Nat) : Except ArchiveError Place := do
  if !e.isTooNarrow && e.disk ≠ (← a.number (locator + 4) 4) then throw .severalDisks
  let nominal ← a.number (locator + 8) 8
  if endStart < 60 then throw .noRoomForWideEnd
  if endStart - 60 < nominal then throw .noWideEnd
  let start ← findWide a nominal (endStart - 60 - nominal)
  let shift := start - nominal
  if (← a.number (start + 16) 4) ≠ (← a.number (start + 20) 4) then throw .severalDisks
  let directory := (← a.number (start + 48) 8) + shift
  if directory ≥ limit64 then throw .badPlace
  return ⟨shift, directory, ← a.number (start + 32) 8⟩

/-- A locator stands twenty bytes in front of the end record, if the comment ends the file. -/
def locator? (a : Image) (e : EndRecord) : Option Nat :=
  let back := 20 + EndRecord.length + e.commentLength
  if a.size < back then none
  else if (a.number (a.size - back) 4).toOption = some locatorSignature then some (a.size - back)
  else none

def find (a : Image) : Except ArchiveError Place := do
  if a.size < EndRecord.length then throw .tooShort
  match EndRecord.find? a (a.size - (EndRecord.length + most16)) (a.size - EndRecord.length) with
  | none => throw .noEnd
  | some endStart =>
    let e ← EndRecord.read a endStart
    if !e.isTooNarrow && e.disk ≠ e.directoryDisk then throw .severalDisks
    match locator? a e with
    | some locator => wide a e endStart locator
    | none =>
      if endStart < e.size + e.offset then throw .badPlace
      return ⟨endStart - e.size - e.offset, endStart - e.size, e.entriesHere⟩

end Place

/-! ## Headers -/

structure Header where
  name : String
  isEncrypted : Bool
  method : Nat
  crc : Nat
  compressedSize : Nat
  /-- As declared. Nothing is read by it, but a full one has a wider one in front of the other wide fields. -/
  size : Nat
  /-- Where the local header starts. -/
  start : Nat
  hasAes : Bool
  deriving DecidableEq, Repr

namespace Header

def signature : Nat := 0x02014B50

def length : Nat := 46

def aesMethod : Nat := 99

/-- A field of 64 bits in place of one that was full. -/
def widen (a : Image) (place : Nat) (old : Nat) : Except ArchiveError (Nat × Nat) := do
  if old = most32 then return (← a.number place 8, place + 8) else return (old, place)

/-- Wider sizes and offset. If they are cut short, those before the cut count. -/
def widened (a : Image) (place : Nat) (h : Header) : Except Header (Header × Nat) :=
  match widen a place h.size with
  | .error _ => .error h
  | .ok (size, p1) =>
    let h := { h with size := size }
    match widen a p1 h.compressedSize with
    | .error _ => .error h
    | .ok (compressed, p2) =>
      let h := { h with compressedSize := compressed }
      match widen a p2 h.start with
      | .error _ => .error h
      | .ok (start, p3) => .ok ({ h with start := start }, p3)

/-- The seven bytes that describe an encryption. -/
def encrypted (a : Image) (place : Nat) (h : Header) : Except ArchiveError Header := do
  let version ← a.number place 2
  let vendor ← a.number (place + 2) 2
  let strength ← a.number (place + 4) 1
  let method ← a.number (place + 5) 2
  if vendor ≠ 0x4541 then throw .badAesVendor
  if version ≠ 1 && version ≠ 2 then throw .badAesVersion
  if strength = 0 || strength > 3 then throw .badAesStrength
  return { h with method := method, hasAes := true }

/-- Read the extra fields in `a` from `place` on. That they are cut short is no fault. -/
def readExtra (a : Image) : Nat → Nat → Header → Except ArchiveError Header
  | 0, _, h => .ok h
  | n + 1, place, h =>
    if a.size ≤ place then .ok h
    else
      match a.number place 2, a.number (place + 2) 2 with
      | .ok 0x0001, .ok length =>
        match widened a (place + 4) h with
        | .error h => .ok h
        | .ok (h, next) => readExtra a n (max next (place + 4 + length)) h
      | .ok 0x9901, .ok length =>
        if length ≠ 7 then .error .badAesLength
        else
          match encrypted a (place + 4) h with
          | .ok h => readExtra a n (place + 4 + 7 + 7) h
          | .error .cutShort => .ok h
          | .error e => .error e
      | .ok _, .ok length => readExtra a n (place + 4 + length) h
      | _, _ => .ok h

def nameOf (flags : Nat) (raw : Bytes) : String :=
  if flags / 0x800 % 2 = 1 then Text.Utf8.decodeString raw else CodePage.decode raw

/-- The header at `start`, and where the next one is. -/
def read (a : Image) (shift start : Nat) : Except ArchiveError (Header × Nat) := do
  if (← a.number start 4) ≠ signature then throw .badHeader
  let _ ← a.bytes start length
  let nameLength ← a.number (start + 28) 2
  let extraLength ← a.number (start + 30) 2
  let commentLength ← a.number (start + 32) 2
  let raw ← a.bytes (start + length) nameLength
  let extra ← a.bytes (start + length + nameLength) extraLength
  let next := start + length + nameLength + extraLength + commentLength
  let _ ← a.bytes (start + length + nameLength + extraLength) commentLength
  let flags ← a.number (start + 8) 2
  let h : Header := ⟨nameOf flags raw, flags % 2 = 1, ← a.number (start + 10) 2, ← a.number (start + 16) 4,
    ← a.number (start + 20) 4, ← a.number (start + 24) 4, ← a.number (start + 42) 4, false⟩
  let h ← readExtra extra.toArray extra.length 0 h
  if h.method = aesMethod && !h.hasAes then throw .missingAesField
  if h.start + shift ≥ limit64 then throw .offsetTooLarge
  return ({ h with start := h.start + shift }, next)

/-- `count` headers from `start` on. -/
def readAll (a : Image) (shift : Nat) : Nat → Nat → Except ArchiveError (List Header)
  | _, 0 => .ok []
  | start, count + 1 => do
    let (h, next) ← read a shift start
    return h :: (← readAll a shift next count)

end Header

/-- The headers of an archive. -/
def headers (a : Image) : Except ArchiveError (List Header) := do
  let place ← Place.find a
  Header.readAll a place.shift place.start place.count

end ClassAtlas.Archive
