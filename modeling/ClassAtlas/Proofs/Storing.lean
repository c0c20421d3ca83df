import ClassAtlas.Archive.Entry
import Mathlib.Algebra.Ring.Nat
import Mathlib.Data.List.Basic

/-
  ClassAtlas.Proofs.Storing — archives that store files as they are.

  Such an archive is the entries, each behind a local header, then the headers of the
  directory, then the end record. It is read from behind: the end record is where it is looked
  for first, and no locator stands in front of it (`locator?_stored`); it says where the
  directory is (`find_stored`), each header of the directory says where its entry is
  (`read_storedHeader`), and there the file stands (`ofHeader_ofStored`). So the archive has an
  entry for each file, with its name and its bytes (`entries_stored`), and no checksum has to
  be worked out to see it.

  All of it rests on one notion: that bytes stand in the image at a place (`Image.At`). What
  stands in two parts stands part by part, and a number is read where its bytes stand.
-/

namespace ClassAtlas.Archive

/-! ## Writing -/

def littleEndian (n : Nat) : Nat → Bytes
  | 0 => []
  | k + 1 => UInt8.ofNat n :: littleEndian (n / 256) k

def nameBytes (name : String) : Bytes := name.toList.map fun c => UInt8.ofNat c.toNat

/-- What both headers of an entry say of it. -/
def storedFields (f : String × Bytes) : Bytes :=
  [20, 0, 0, 0, 0, 0, 0, 0, 0x21, 0] ++ littleEndian (Checksum.crc32 f.2).toNat 4 ++ littleEndian f.2.length 4 ++
    littleEndian f.2.length 4 ++ littleEndian (nameBytes f.1).length 2 ++ [0, 0]

def storedEntry (f : String × Bytes) : Bytes := [0x50, 0x4B, 3, 4] ++ storedFields f ++ nameBytes f.1 ++ f.2

/-- The header of the entry that stands at `start`. -/
def storedHeader (start : Nat) (f : String × Bytes) : Bytes :=
  [0x50, 0x4B, 1, 2, 20, 0] ++ storedFields f ++ List.replicate 10 0 ++ littleEndian start 4 ++ nameBytes f.1

/-- The headers of entries, the first of which stands at `start`. -/
def storedDirectory (start : Nat) : List (String × Bytes) → Bytes
  | [] => []
  | f :: fs => storedHeader start f ++ storedDirectory (start + (storedEntry f).length) fs

def stored (fs : List (String × Bytes)) : Bytes :=
  let entries := fs.flatMap storedEntry
  let directory := storedDirectory 0 fs
  entries ++ directory ++ [0x50, 0x4B, 5, 6, 0, 0, 0, 0] ++ littleEndian fs.length 2 ++ littleEndian fs.length 2 ++
    littleEndian directory.length 4 ++ littleEndian entries.length 4 ++ [0, 0]

/-! ## Bytes at a place -/

namespace Image

/-- The bytes stand in the image, the first of them at `start`. -/
def At (a : Image) (start : Nat) (bs : Bytes) : Prop :=
  ∃ front back, a.toList = front ++ bs ++ back ∧ front.length = start

variable {a : Image} {start : Nat} {bs cs : Bytes}

theorem At.left (h : a.At start (bs ++ cs)) : a.At start bs := by
  obtain ⟨front, back, ha, hstart⟩ := h
  exact ⟨front, cs ++ back, by rw [ha]; simp only [List.append_assoc], hstart⟩

theorem At.right (h : a.At start (bs ++ cs)) : a.At (start + bs.length) cs := by
  obtain ⟨front, back, ha, hstart⟩ := h
  exact ⟨front ++ bs, back, by rw [ha]; simp only [List.append_assoc], by rw [List.length_append, hstart]⟩

/-- Right behind them stands nothing. -/
theorem At.nil_right (h : a.At start bs) : a.At (start + bs.length) [] :=
  At.right ((List.append_nil bs).symm ▸ h)

theorem At.extract (h : a.At start bs) : (a.extract start (start + bs.length)).toList = bs := by
  obtain ⟨front, back, ha, rfl⟩ := h
  rw [Array.toList_extract, ha, List.extract_eq_take_drop, List.append_assoc, List.drop_left,
    Nat.add_sub_cancel_left, List.take_left]

theorem At.bytes (h : a.At start bs) : a.bytes start bs.length = .ok bs := by
  have hle : start + bs.length ≤ a.size := by
    obtain ⟨front, back, ha, rfl⟩ := h
    rw [← Array.length_toList, ha, List.length_append, List.length_append]
    exact Nat.le_add_right _ _
  rw [Image.bytes, if_pos hle, h.extract]

/-- The number that is read where its bytes stand. -/
theorem At.number (h : a.At start bs) : a.number start bs.length = .ok (littleEndian bs) := by
  rw [Image.number, h.bytes]
  rfl

theorem At.drop (h : a.At start bs) {n : Nat} (hn : n ≤ bs.length) : a.At (start + n) (bs.drop n) := by
  rw [← List.take_append_drop n bs] at h
  have hright := h.right
  rwa [List.length_take_of_le hn] at hright

/-- The number in four of them. -/
theorem At.number_four (h : a.At start bs) {i : Nat} (hi : i + 3 < bs.length) :
    a.number (start + i) 4 =
      .ok (bs[i].toNat + 256 * (bs[i + 1].toNat + 256 * (bs[i + 2].toNat + 256 * (bs[i + 3].toNat + 256 * 0)))) := by
  have hdrop : bs.drop i = [bs[i], bs[i + 1], bs[i + 2], bs[i + 3]] ++ bs.drop (i + 4) := by
    rw [List.drop_eq_getElem_cons (by omega), List.drop_eq_getElem_cons (by omega), List.drop_eq_getElem_cons (by omega),
      List.drop_eq_getElem_cons hi]
    rfl
  have hfour := h.drop (n := i) (by omega)
  rw [hdrop] at hfour
  exact hfour.left.number

end Image

theorem length_littleEndian (n k : Nat) : (littleEndian n k).length = k := by
  induction k generalizing n with
  | zero => rfl
  | succ k ih => rw [littleEndian, List.length_cons, ih]

theorem littleEndian_littleEndian {n k : Nat} (h : n < 256 ^ k) : Image.littleEndian (littleEndian n k) = n := by
  induction k generalizing n with
  | zero => exact (Nat.lt_one_iff.mp h).symm
  | succ k ih =>
    have hrest : n / 256 < 256 ^ k := (Nat.div_lt_iff_lt_mul (by decide)).mpr h
    rw [littleEndian, Image.littleEndian, List.foldr_cons, ← Image.littleEndian, ih hrest, UInt8.toNat_ofNat']
    exact Nat.mod_add_div n 256

theorem Image.At.number_littleEndian {a : Image} {start n k : Nat} (h : a.At start (Archive.littleEndian n k))
    (hn : n < 256 ^ k) : a.number start k = .ok n := by
  have hnumber := h.number
  rwa [length_littleEndian, littleEndian_littleEndian hn] at hnumber

/-! ## Headers -/

section Headers

variable {a : Image} {start : Nat} {f : String × Bytes}

theorem length_storedFields (f : String × Bytes) : (storedFields f).length = 26 := by
  simp only [storedFields, List.length_append, length_littleEndian, List.length_cons, List.length_nil]

/-- What is read of the fields that both headers have, the first of which stands at `start`. -/
structure Fields (a : Image) (start : Nat) (f : String × Bytes) : Prop where
  flags : a.number (start + 2) 2 = .ok 0
  method : a.number (start + 4) 2 = .ok 0
  crc : a.number (start + 10) 4 = .ok (Checksum.crc32 f.2).toNat
  compressedSize : a.number (start + 14) 4 = .ok f.2.length
  size : a.number (start + 18) 4 = .ok f.2.length
  nameLength : a.number (start + 22) 2 = .ok (nameBytes f.1).length
  extraLength : a.number (start + 24) 2 = .ok 0

theorem fields_of_at (h : a.At start (storedFields f)) (hname : (nameBytes f.1).length < 2 ^ 16)
    (hsize : f.2.length < 2 ^ 32) : Fields a start f := by
  have hcrc : (Checksum.crc32 f.2).toNat < 256 ^ 4 := UInt32.toNat_lt _
  have hfront : a.At start ([20, 0] ++ ([0, 0] ++ ([0, 0] ++ [0, 0, 0x21, 0]))) := h.left.left.left.left.left
  have hat {n : Nat} {front : Bytes} {k : Nat} (hn : n < 256 ^ k) (h : a.At start (front ++ littleEndian n k)) :
      a.number (start + front.length) k = .ok n := h.right.number_littleEndian hn
  exact {
    flags := hfront.right.left.number
    method := hfront.right.right.left.number
    crc := hat hcrc h.left.left.left.left
    compressedSize := hat hsize h.left.left.left
    size := hat hsize h.left.left
    nameLength := hat hname h.left
    extraLength := h.right.number }

theorem decode_nameBytes {name : String} (h : ∀ c ∈ name.toList, c.toNat < 0x80) :
    CodePage.decode (nameBytes name) = name := by
  have hchar : ∀ c ∈ name.toList, (CodePage.charOf ∘ fun c => UInt8.ofNat c.toNat) c = c := by
    intro c hc
    have hbyte : (UInt8.ofNat c.toNat).toNat = c.toNat :=
      UInt8.toNat_ofNat_of_lt' (Nat.lt_trans (h c hc) (by decide))
    have hlow : UInt8.ofNat c.toNat < 0x80 := by
      rw [UInt8.lt_iff_toNat_lt, hbyte]
      exact h c hc
    rw [Function.comp_apply, CodePage.charOf, if_pos hlow, hbyte, Char.ofNat_toNat]
  rw [CodePage.decode, nameBytes, List.map_map, List.map_congr_left hchar, List.map_id', String.ofList_toList]

/-- What is read of the header of a stored file. -/
def Header.ofStored (start : Nat) (f : String × Bytes) : Header where
  name := f.1
  isEncrypted := false
  method := 0
  crc := (Checksum.crc32 f.2).toNat
  compressedSize := f.2.length
  size := f.2.length
  start := start
  hasAes := false

/-- A name that is neither too short nor too long, in characters that ASCII can print. -/
structure PlainName (name : String) : Prop where
  atLeast : 4 ≤ (nameBytes name).length
  atMost : (nameBytes name).length < 2 ^ 16
  printable : ∀ c ∈ name.toList, 0x20 ≤ c.toNat ∧ c.toNat < 0x80

-- Along the name: the instance that is found otherwise may go through every character there is.
instance (name : String) : Decidable (PlainName name) :=
  have : Decidable (∀ c ∈ name.toList, 0x20 ≤ c.toNat ∧ c.toNat < 0x80) :=
    List.decidableBAll (fun c => 0x20 ≤ c.toNat ∧ c.toNat < 0x80) name.toList
  decidable_of_iff (4 ≤ (nameBytes name).length ∧ (nameBytes name).length < 2 ^ 16 ∧
      ∀ c ∈ name.toList, 0x20 ≤ c.toNat ∧ c.toNat < 0x80)
    ⟨fun h => ⟨h.1, h.2.1, h.2.2⟩, fun h => ⟨h.atLeast, h.atMost, h.printable⟩⟩

theorem PlainName.byte_printable {name : String} (h : PlainName name) {b : UInt8} (hb : b ∈ nameBytes name) :
    0x20 ≤ b.toNat := by
  obtain ⟨c, hc, rfl⟩ := List.mem_map.mp hb
  obtain ⟨hlow, hhigh⟩ := h.printable c hc
  rwa [UInt8.toNat_ofNat_of_lt' (Nat.lt_trans hhigh (by decide))]

theorem length_storedHeader (k : Nat) (f : String × Bytes) :
    (storedHeader k f).length = 46 + (nameBytes f.1).length := by
  simp only [storedHeader, List.length_append, length_storedFields, length_littleEndian, List.length_replicate]
  rfl

theorem read_storedHeader {k : Nat} (hname : PlainName f.1) (hsize : f.2.length < 2 ^ 32) (hk : k < 2 ^ 32)
    (h : a.At start (storedHeader k f)) :
    Header.read a 0 start = .ok (Header.ofStored k f, start + (storedHeader k f).length) := by
  have hfirst : a.At start ([0x50, 0x4B, 1, 2] ++ [20, 0]) := h.left.left.left.left
  have hsignature : a.number start 4 = .ok Header.signature := hfirst.left.number
  have hfields : Fields a (start + 6) f := fields_of_at h.left.left.left.right hname.atMost hsize
  have hzeros : a.At (start + 32) ([0, 0] ++ List.replicate 8 0) := h.left.left.right
  have hcomment : a.number (start + 32) 2 = .ok 0 := hzeros.left.number
  have hstart : a.number (start + 42) 4 = .ok k := h.left.right.number_littleEndian hk
  have hfixed : a.bytes start Header.length = .ok _ := h.left.bytes
  have hraw : a.bytes (start + Header.length) (nameBytes f.1).length = .ok (nameBytes f.1) := h.right.bytes
  have hrest : a.At (start + Header.length + (nameBytes f.1).length) [] := h.right.nil_right
  have hnone : a.bytes (start + Header.length + (nameBytes f.1).length) 0 = .ok [] := hrest.bytes
  have hextra (h : Header) : Header.readExtra #[] 0 0 h = .ok h := rfl
  have hmethod : ¬(decide (0 = Header.aesMethod) && !false) = true := by decide
  have hlimit : ¬k ≥ limit64 := Nat.not_le.mpr (Nat.lt_trans hk (by decide))
  have hdecoded : Header.nameOf 0 (nameBytes f.1) = f.1 := decode_nameBytes fun c hc => (hname.printable c hc).2
  rw [length_storedHeader, ← Nat.add_assoc]
  simp only [Header.read, bind, Except.bind, pure, Except.pure, hsignature, hfixed, hfields.nameLength,
    hfields.extraLength, hcomment, hraw, hnone, hfields.flags, hfields.method, hfields.crc, hfields.compressedSize,
    hfields.size, hstart, Nat.add_zero, ne_eq, not_true_eq_false, if_false, List.length_nil, hextra, if_neg hmethod,
    if_neg hlimit, hdecoded]
  rfl

/-! ## Entries -/

/-- The entry of a stored file. -/
def Entry.ofStored (f : String × Bytes) : Entry := ⟨f.1, .ok ⟨f.2, false, (Checksum.crc32 f.2).toNat⟩⟩

/-- Its checksum is right. -/
theorem content_ofStored (bytes : Bytes) :
    Stored.content ⟨bytes, false, (Checksum.crc32 bytes).toNat⟩ = .ok bytes := if_pos rfl

theorem ofHeader_ofStored {k : Nat} (hname : PlainName f.1) (hsize : f.2.length < 2 ^ 32) (h : a.At k (storedEntry f)) :
    Entry.ofHeader a (Header.ofStored k f) = Entry.ofStored f := by
  have hsignature : a.number k 4 = .ok 0x04034B50 := h.left.left.left.number
  have hfields : Fields a (k + 4) f := fields_of_at h.left.left.right hname.atMost hsize
  have hdata : (a.extract (k + 30 + (nameBytes f.1).length) (k + 30 + (nameBytes f.1).length + f.2.length)).toList =
      f.2 := by
    have hat := h.right
    rw [List.length_append, ← Nat.add_assoc] at hat
    exact hat.extract
  have hopened : Entry.openAt a (Header.ofStored k f) = .ok ⟨f.2, false, (Checksum.crc32 f.2).toNat⟩ := by
    simp only [Entry.openAt, Header.ofStored, bind, Except.bind, pure, Except.pure, hsignature, hfields.nameLength,
      hfields.extraLength, Nat.add_zero, hdata]
    rfl
  rw [Entry.ofHeader, hopened]
  rfl

theorem readAll_storedDirectory {k : Nat} {fs : List (String × Bytes)} (hnames : ∀ f ∈ fs, PlainName f.1)
    (hk : k + (fs.flatMap storedEntry).length < 2 ^ 32) (hentries : a.At k (fs.flatMap storedEntry))
    (hdirectory : a.At start (storedDirectory k fs)) :
    ∃ hs, Header.readAll a 0 start fs.length = .ok hs ∧ hs.map (Entry.ofHeader a) = fs.map Entry.ofStored := by
  induction fs generalizing k start with
  | nil => exact ⟨[], rfl, rfl⟩
  | cons f fs ih =>
    obtain ⟨hname, hnames⟩ := List.forall_mem_cons.mp hnames
    rw [List.flatMap_cons] at hentries hk
    rw [List.length_append, ← Nat.add_assoc] at hk
    obtain ⟨hs, hrest, hsame⟩ := ih hnames hk hentries.right hdirectory.right
    have hsize : f.2.length < 2 ^ 32 := by
      rw [storedEntry, List.length_append] at hk
      omega
    have hhead := read_storedHeader hname hsize (by omega) hdirectory.left
    refine ⟨Header.ofStored k f :: hs, ?_, ?_⟩
    · simp only [List.length_cons, Header.readAll, bind, Except.bind, hhead]
      rw [hrest]
      rfl
    · rw [List.map_cons, List.map_cons, ofHeader_ofStored hname hsize hentries.left, hsame]

end Headers

/-! ## The archive -/

/-- Files that can be stored: their names are plain, and an archive of them is not too large. -/
structure Storable (fs : List (String × Bytes)) : Prop where
  names : ∀ f ∈ fs, PlainName f.1
  count : fs.length < 2 ^ 16
  /-- So no offset can be taken for a locator. -/
  size : (stored fs).length < Place.locatorSignature

section Whole

variable {a : Image} {start least : Nat}

/-- What stands behind the headers. -/
def storedEnd (count size start : Nat) : Bytes :=
  [0x50, 0x4B, 5, 6] ++ [0, 0] ++ [0, 0] ++ littleEndian count 2 ++ littleEndian count 2 ++ littleEndian size 4 ++
    littleEndian start 4 ++ [0, 0]

theorem stored_eq (fs : List (String × Bytes)) :
    stored fs = fs.flatMap storedEntry ++ storedDirectory 0 fs ++
      storedEnd fs.length (storedDirectory 0 fs).length (fs.flatMap storedEntry).length := by
  simp only [stored, storedEnd, List.append_assoc]
  rfl

theorem EndRecord.find?_of_number (h : a.number start 4 = .ok signature) (hleast : least ≤ start) :
    find? a least start = some start := by
  cases start with
  | zero =>
    rw [Nat.le_zero.mp hleast, find?, h]
    rfl
  | succ n =>
    rw [find?, if_neg (Nat.not_lt.mpr hleast), h]
    rfl

theorem EndRecord.read_storedEnd {count size offset : Nat} (hcount : count < 2 ^ 16) (hsize : size < 2 ^ 32)
    (hoffset : offset < 2 ^ 32) (h : a.At start (storedEnd count size offset)) :
    a.number start 4 = .ok signature ∧ EndRecord.read a start = .ok ⟨0, 0, count, count, size, offset, 0⟩ := by
  have hsignature : a.number start 4 = .ok signature := h.left.left.left.left.left.left.left.number
  have hdisk : a.number (start + 4) 2 = .ok 0 := h.left.left.left.left.left.left.right.number
  have hdirectoryDisk : a.number (start + 6) 2 = .ok 0 := h.left.left.left.left.left.right.number
  have hhere : a.number (start + 8) 2 = .ok count := h.left.left.left.left.right.number_littleEndian hcount
  have hall : a.number (start + 10) 2 = .ok count := h.left.left.left.right.number_littleEndian hcount
  have hbytes : a.number (start + 12) 4 = .ok size := h.left.left.right.number_littleEndian hsize
  have hplace : a.number (start + 16) 4 = .ok offset := h.left.right.number_littleEndian hoffset
  have hcomment : a.number (start + 20) 2 = .ok 0 := h.right.number
  have hrest : a.bytes (start + EndRecord.length) 0 = .ok [] := h.nil_right.bytes
  refine ⟨hsignature, ?_⟩
  simp only [EndRecord.read, bind, Except.bind, pure, Except.pure, hcomment, hrest, hdisk, hdirectoryDisk, hhere, hall,
    hbytes, hplace]

/-- Twenty bytes in front of a header's end no locator begins. -/
theorem number_ne_locator {k : Nat} {f : String × Bytes} (hname : PlainName f.1) (hk : k < Place.locatorSignature)
    (h : a.At start (storedHeader k f)) :
    a.number (start + (26 + (nameBytes f.1).length)) 4 ≠ .ok Place.locatorSignature := by
  intro hlocator
  have hshort := hname.atLeast
  have hheader : storedHeader k f =
      ([0x50, 0x4B, 1, 2, 20, 0] ++ [20, 0, 0, 0, 0, 0, 0, 0, 0x21, 0] ++ littleEndian (Checksum.crc32 f.2).toNat 4 ++
        littleEndian f.2.length 4 ++ littleEndian f.2.length 4 ++ littleEndian (nameBytes f.1).length 2) ++
      (List.replicate 12 0 ++ (littleEndian k 4 ++ nameBytes f.1)) := by
    simp only [storedHeader, storedFields, List.append_assoc]
    rfl
  rw [hheader] at h
  have hzeros : a.At (start + 30) (List.replicate 12 0 ++ (littleEndian k 4 ++ nameBytes f.1)) := h.right
  have hnumber : a.At (start + 42) (littleEndian k 4 ++ nameBytes f.1) := hzeros.right
  rcases Nat.lt_trichotomy (nameBytes f.1).length 16 with hlt | heq | hgt
  · -- it would begin with a zero
    have hfour := hzeros.number_four (i := (nameBytes f.1).length - 4)
      (by simp only [List.length_append, List.length_replicate, length_littleEndian]; omega)
    have hplace : start + 30 + ((nameBytes f.1).length - 4) = start + (26 + (nameBytes f.1).length) := by omega
    rw [hplace, hlocator, List.getElem_append_left (by rw [List.length_replicate]; omega), List.getElem_replicate] at hfour
    have hfirst := Except.ok.inj hfour
    simp only [Place.locatorSignature, UInt8.toNat_zero] at hfirst
    omega
  · -- it would be the offset
    rw [heq] at hlocator
    have hoffset := hnumber.left.number_littleEndian (Nat.lt_trans hk (by decide))
    rw [hoffset] at hlocator
    exact absurd (Except.ok.inj hlocator) (Nat.ne_of_lt hk)
  · -- it would end in the name
    have hbound : (nameBytes f.1).length - 16 + 3 < (littleEndian k 4 ++ nameBytes f.1).length := by
      rw [List.length_append, length_littleEndian]
      omega
    have hfour := hnumber.number_four hbound
    have hplace : start + 42 + ((nameBytes f.1).length - 16) = start + (26 + (nameBytes f.1).length) := by omega
    have hlast : 0x20 ≤ (littleEndian k 4 ++ nameBytes f.1)[(nameBytes f.1).length - 16 + 3].toNat := by
      rw [List.getElem_append_right (by rw [length_littleEndian]; omega)]
      exact hname.byte_printable (List.getElem_mem _)
    rw [hplace, hlocator] at hfour
    have hvalue := Except.ok.inj hfour
    simp only [Place.locatorSignature] at hvalue
    omega

theorem storedDirectory_append (k : Nat) (fs gs : List (String × Bytes)) :
    storedDirectory k (fs ++ gs) = storedDirectory k fs ++ storedDirectory (k + (fs.flatMap storedEntry).length) gs := by
  induction fs generalizing k with
  | nil => rfl
  | cons f fs ih =>
    rw [List.cons_append, storedDirectory, ih, storedDirectory, List.flatMap_cons, List.length_append,
      ← Nat.add_assoc, List.append_assoc]

variable {fs : List (String × Bytes)}

theorem length_storedEntry (f : String × Bytes) :
    (storedEntry f).length = 30 + (nameBytes f.1).length + f.2.length := by
  rw [storedEntry, List.length_append, List.length_append, List.length_append, length_storedFields]
  rfl

theorem length_storedDirectory (k : Nat) (fs : List (String × Bytes)) :
    (storedDirectory k fs).length = (fs.map fun f => 46 + (nameBytes f.1).length).sum := by
  induction fs generalizing k with
  | nil => rfl
  | cons f fs ih => rw [storedDirectory, List.length_append, length_storedHeader, ih, List.map_cons, List.sum_cons]

theorem length_stored (fs : List (String × Bytes)) :
    (stored fs).length = (fs.flatMap storedEntry).length + (storedDirectory 0 fs).length + 22 := by
  rw [stored_eq, List.length_append, List.length_append]
  rfl

theorem at_stored (fs : List (String × Bytes)) :
    Image.At (stored fs).toArray 0 (fs.flatMap storedEntry ++ storedDirectory 0 fs ++
      storedEnd fs.length (storedDirectory 0 fs).length (fs.flatMap storedEntry).length) :=
  ⟨[], [], by rw [List.nil_append, List.append_nil, ← stored_eq], rfl⟩

/-- No locator stands in front of the end record. -/
theorem locator?_stored (h : Storable fs) (count size start : Nat) :
    Place.locator? (stored fs).toArray ⟨0, 0, count, count, size, start, 0⟩ = none := by
  rcases List.eq_nil_or_concat fs with rfl | ⟨front, f, rfl⟩
  · rfl
  · rw [List.concat_eq_append] at h ⊢
    have hsize := h.size
    have hname := h.names f (List.mem_append_right _ (List.mem_singleton_self f))
    have hlength := length_stored (front ++ [f])
    have hat := (at_stored (front ++ [f])).left.right
    rw [storedDirectory_append, storedDirectory, storedDirectory, List.append_nil] at hat hlength
    have hdirectory := length_storedHeader (0 + (front.flatMap storedEntry).length) f
    simp only [List.flatMap_append, List.length_append] at hlength hat
    have hne := number_ne_locator hname (by omega) hat.right
    have hback : (stored (front ++ [f])).toArray.size - (20 + EndRecord.length + 0) =
        0 + ((front.flatMap storedEntry).length + ([f].flatMap storedEntry).length) + (storedDirectory 0 front).length +
          (26 + (nameBytes f.1).length) := by
      rw [List.size_toArray, hlength, EndRecord.length]
      omega
    have hlong : ¬(stored (front ++ [f])).toArray.size < 20 + EndRecord.length + 0 := by
      rw [List.size_toArray, hlength, EndRecord.length]
      omega
    rw [Place.locator?, if_neg hlong, hback]
    cases hnumber : Image.number _ _ _ with
    | error => rfl
    | ok n => exact if_neg fun hn => hne (hnumber.trans (congrArg Except.ok (Option.some.inj hn)))

theorem find_stored (h : Storable fs) :
    Place.find (stored fs).toArray = .ok ⟨0, (fs.flatMap storedEntry).length, fs.length⟩ := by
  have hlength := length_stored fs
  have hsize := h.size
  have hlimit : Place.locatorSignature < 2 ^ 32 := by decide
  obtain ⟨hsignature, hread⟩ := EndRecord.read_storedEnd h.count (by omega) (by omega) (at_stored fs).right
  rw [List.length_append, Nat.zero_add] at hsignature hread
  have hback : (stored fs).toArray.size - EndRecord.length =
      (fs.flatMap storedEntry).length + (storedDirectory 0 fs).length := by
    rw [List.size_toArray, hlength]
    exact Nat.add_sub_cancel _ _
  have hlong : ¬(stored fs).toArray.size < EndRecord.length := by
    rw [List.size_toArray, hlength]
    exact Nat.not_lt.mpr (Nat.le_add_left _ _)
  have hleast : (stored fs).toArray.size - (EndRecord.length + most16) ≤
      (fs.flatMap storedEntry).length + (storedDirectory 0 fs).length := by omega
  have hfound := EndRecord.find?_of_number hsignature hleast
  have hfits : ¬(fs.flatMap storedEntry).length + (storedDirectory 0 fs).length <
      (storedDirectory 0 fs).length + (fs.flatMap storedEntry).length := by omega
  have hshift : (fs.flatMap storedEntry).length + (storedDirectory 0 fs).length - (storedDirectory 0 fs).length =
      (fs.flatMap storedEntry).length := Nat.add_sub_cancel _ _
  simp only [Place.find, if_neg hlong, hback, hfound, hread, bind, Except.bind, pure, Except.pure, ne_eq,
    not_true_eq_false, decide_false, Bool.and_false, Bool.false_eq_true, if_false, locator?_stored h,
    if_neg hfits, hshift, Nat.sub_self]

end Whole

/-- An archive of files that are stored as they are has an entry for each of them, in their order. -/
theorem entries_stored {fs : List (String × Bytes)} (h : Storable fs) :
    entries (stored fs) = .ok (fs.map Entry.ofStored) := by
  have hlength := length_stored fs
  have hsize := h.size
  have hlimit : Place.locatorSignature < 2 ^ 32 := by decide
  have hat := (at_stored fs).left
  obtain ⟨hs, hall, hsame⟩ := readAll_storedDirectory h.names (by omega) hat.left hat.right
  rw [Nat.zero_add] at hall
  have hheaders : headers (stored fs).toArray = .ok hs := by
    rw [headers, find_stored h]
    exact hall
  rw [entries, hheaders, ← hsame]
  rfl

end ClassAtlas.Archive
