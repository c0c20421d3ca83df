import ClassAtlas.ClassFile.Write
import ClassAtlas.Proofs.Extent
import Mathlib.Data.List.Induction

/-
  ClassAtlas.Proofs.Layout — where the pieces of a class file stand, with nothing looked up.

  Behind its head a class file is nothing but tables: the fields, the methods and the
  attributes of each of them and of the class. A `Layout` has the entries of these tables as
  they stand in the file, numbers of constants for numbers of constants and bodies for bytes.
  It says where an entry begins and ends and leaves open what it means, or whether it means
  anything.

  Two facts tie layouts to the decoder. Every file that is accepted has a layout
  (`exists_layout`). And a layout is read entry by entry (`parse_bytes`): what an attribute
  means hangs on the pool and on its own body (`RawAttribute.meaning`), a table means what its
  entries mean in turn, and the first entry that means nothing is the error of the whole file.
-/

namespace ClassAtlas

namespace Decode

/-! ## Bytes that give a value or an error -/

/-- Whatever comes behind `bs`, what `p` makes of them is `q`, and a value takes all of them. -/
def Gives {α : Type} (p : Decode α) (bs : Bytes) (q : Except DecodeError α) : Prop :=
  ∀ rest, p (bs ++ rest) = q.map fun a => (a, rest)

variable {α β ρ : Type} {p : Decode α} {bs cs : Bytes}

theorem reads_word (v : UInt16) : Reads u2 (ClassFile.wordBytes v.toNat) v := reads_u2 v

theorem Reads.gives {a : α} (h : Reads p bs a) : Gives p bs (.ok a) := h

theorem gives_check (q : Except DecodeError α) : Gives (check q) [] q := by
  intro rest
  cases q with
  | ok a => rfl
  | error e => rfl

theorem Gives.bind {f : α → Decode β} {q : Except DecodeError α} {r : α → Except DecodeError β} (hp : Gives p bs q)
    (hf : ∀ a, Gives (f a) cs (r a)) : Gives (p >>= f) (bs ++ cs) (q >>= r) := by
  intro rest
  rw [List.append_assoc]
  cases q with
  | error e => exact bind_of_error (hp (cs ++ rest))
  | ok a =>
    rw [bind_of_ok (hp (cs ++ rest))]
    exact hf a rest

theorem Gives.map {q : Except DecodeError α} (hp : Gives p bs q) (f : α → β) :
    Gives (p >>= fun a => pure (f a)) bs (q >>= fun a => pure (f a)) := by
  have h : Gives (p >>= fun a => pure (f a)) (bs ++ []) (q >>= fun a => pure (f a)) :=
    hp.bind fun a => (Reads.pure (f a)).gives
  rwa [List.append_nil] at h

/-- A word that numbers a constant gives what is found under it. -/
theorem Gives.check {a : α} (hp : Reads p bs a) (q : α → Except DecodeError β) :
    Gives (p >>= fun a => Decode.check (q a)) bs (q a) := by
  intro rest
  rw [bind_of_ok (hp rest)]
  exact gives_check (q a) rest

/-- Entries are read in turn, up to the first that gives an error. -/
theorem gives_times {bytes : ρ → Bytes} {meaning : ρ → Except DecodeError α} {xs : List ρ}
    (h : ∀ x ∈ xs, Gives p (bytes x) (meaning x)) :
    Gives (times p xs.length) (xs.map bytes).flatten (xs.mapM meaning) := by
  induction xs with
  | nil => exact (Reads.pure []).gives
  | cons x xs ih =>
    obtain ⟨hfirst, hrest⟩ := List.forall_mem_cons.mp h
    rw [List.mapM_cons, List.map_cons, List.flatten_cons]
    exact hfirst.bind fun a => (ih hrest).map _

/-! ## Values that are spelled by the bytes they took -/

theorem ok_of_bind {f : α → Decode β} {rest : Bytes} {b : β} (h : (p >>= f) bs = .ok (b, rest)) :
    ∃ a mid, p bs = .ok (a, mid) ∧ f a mid = .ok (b, rest) := by
  cases hfirst : p bs with
  | error e =>
    rw [bind_of_error hfirst] at h
    cases h
  | ok r =>
    obtain ⟨a, mid⟩ := r
    rw [bind_of_ok hfirst] at h
    exact ⟨a, mid, rfl, h⟩

/-- What `p` takes is one of the things that `bytes` spells. -/
def Spelled {α ρ : Type} (p : Decode α) (bytes : ρ → Bytes) : Prop :=
  ∀ {bs rest : Bytes} {a : α}, p bs = .ok (a, rest) → ∃ x, bs = bytes x ++ rest

theorem ok_of_u1 {rest : Bytes} {b : UInt8} (h : u1 bs = .ok (b, rest)) : bs = b :: rest := by
  cases bs with
  | nil => cases h
  | cons b' bs =>
    cases h
    rfl

theorem bigEndian_concat (bs : Bytes) (b : UInt8) : bigEndian (bs ++ [b]) = bigEndian bs * 256 + b.toNat := by
  simp [bigEndian]

theorem bigEndian_lt (bs : Bytes) : bigEndian bs < 256 ^ bs.length := by
  induction bs using List.reverseRecOn with
  | nil => decide
  | append_singleton bs b ih =>
    have hb := b.toNat_lt
    rw [bigEndian_concat, List.length_append, List.length_singleton, Nat.pow_succ]
    omega

theorem bigEndian_inj {as bs : Bytes} (hlength : as.length = bs.length) (h : bigEndian as = bigEndian bs) :
    as = bs := by
  induction as using List.reverseRecOn generalizing bs with
  | nil => exact (List.eq_nil_of_length_eq_zero hlength.symm).symm
  | append_singleton as a ih =>
    rcases List.eq_nil_or_concat bs with rfl | ⟨bs, b, rfl⟩
    · simp at hlength
    · have ha := a.toNat_lt
      have hb := b.toNat_lt
      rw [List.concat_eq_append, bigEndian_concat, bigEndian_concat] at h
      have hlast : a.toNat = b.toNat := by omega
      have hfront : bigEndian as = bigEndian bs := by omega
      have hlengths : as.length = bs.length := by simpa using hlength
      rw [List.concat_eq_append, ih hlengths hfront, UInt8.toNat_inj.mp hlast]

theorem ok_of_take {n : Nat} {front rest : Bytes} (h : take n bs = .ok (front, rest)) :
    bs = front ++ rest ∧ front.length = n := by
  unfold take at h
  split at h
  · next hlength =>
    cases h
    exact ⟨(List.take_append_drop n bs).symm, hlength⟩
  · cases h

/-- A number spells the bytes that it was made of. -/
theorem bigEndian_of_length {front : Bytes} {k : Nat} (h : front.length = k) :
    Digest.bigEndian (bigEndian front) k = front := by
  subst h
  exact bigEndian_inj (length_bigEndian _ _) (bigEndian_bigEndian (bigEndian_lt front))

/-- A number of `k` bytes is spelled by the bytes that it was read from. -/
theorem ok_of_number {k : Nat} {make : Nat → α} {toNat : α → Nat}
    (hmake : ∀ n, n < 256 ^ k → toNat (make n) = n) {rest : Bytes} {v : α}
    (h : (take k >>= fun front => pure (make (bigEndian front))) bs = .ok (v, rest)) :
    bs = Digest.bigEndian (toNat v) k ++ rest := by
  obtain ⟨front, mid, htake, hpure⟩ := ok_of_bind h
  obtain ⟨rfl, hlength⟩ := ok_of_take htake
  cases hpure
  have hlt : bigEndian front < 256 ^ k := by
    rw [← hlength]
    exact bigEndian_lt front
  rw [hmake _ hlt, bigEndian_of_length hlength]

theorem ok_of_u2 {rest : Bytes} {v : UInt16} (h : u2 bs = .ok (v, rest)) : bs = ClassFile.wordBytes v.toNat ++ rest :=
  ok_of_number (fun _ hn => UInt16.toNat_ofNat_of_lt' hn) h

theorem ok_of_u4 {rest : Bytes} {v : UInt32} (h : u4 bs = .ok (v, rest)) : bs = ClassFile.longBytes v.toNat ++ rest :=
  ok_of_number (fun _ hn => UInt32.toNat_ofNat_of_lt' hn) h

theorem ok_of_check {q : Except DecodeError α} {rest : Bytes} {a : α} (h : check q bs = .ok (a, rest)) :
    q = .ok a ∧ bs = rest := by
  cases q with
  | error e => cases h
  | ok a' =>
    cases h
    exact ⟨rfl, rfl⟩

/-- What is found under a number was found under the one that stood there. -/
theorem ok_of_word {q : UInt16 → Except DecodeError α} {rest : Bytes} {a : α}
    (h : (u2 >>= fun i => check (q i)) bs = .ok (a, rest)) :
    ∃ i : UInt16, bs = ClassFile.wordBytes i.toNat ++ rest := by
  obtain ⟨i, mid, hindex, hfound⟩ := ok_of_bind h
  obtain ⟨-, rfl⟩ := ok_of_check hfound
  exact ⟨i, ok_of_u2 hindex⟩

theorem ok_of_times {bytes : ρ → Bytes} (hp : Spelled p bytes) {n : Nat} {rest : Bytes} {as : List α}
    (h : times p n bs = .ok (as, rest)) : ∃ xs : List ρ, xs.length = n ∧ bs = (xs.map bytes).flatten ++ rest := by
  induction n generalizing bs as with
  | zero =>
    cases h
    exact ⟨[], rfl, rfl⟩
  | succ n ih =>
    obtain ⟨a, mid, hfirst, hmore⟩ := ok_of_bind h
    obtain ⟨as', mid', hrest, hpure⟩ := ok_of_bind hmore
    cases hpure
    obtain ⟨x, rfl⟩ := hp hfirst
    obtain ⟨xs, rfl, rfl⟩ := ih hrest
    exact ⟨x :: xs, rfl, by rw [List.map_cons, List.flatten_cons, List.append_assoc]⟩

end Decode

namespace ClassFile

open Decode

/-! ## Tables -/

/-- Entries that two bytes can count. -/
structure Table (ρ : Type) where
  entries : List ρ
  count_fits : entries.length < 2 ^ 16

namespace Table

variable {α ρ : Type}

def empty : Table ρ := ⟨[], Nat.two_pow_pos 16⟩

def bytes (spell : ρ → Bytes) (t : Table ρ) : Bytes := countedBytes (t.entries.map spell)

theorem gives {p : Decode α} {spell : ρ → Bytes} {meaning : ρ → Except DecodeError α} (t : Table ρ)
    (h : ∀ x ∈ t.entries, Gives p (spell x) (meaning x)) :
    Gives (counted p) (t.bytes spell) (t.entries.mapM meaning) := by
  intro rest
  have hcount : Reads u2 (wordBytes t.entries.length) (UInt16.ofNat t.entries.length) :=
    reads_number (k := 2) t.count_fits UInt16.ofNat
  have hlength : (UInt16.ofNat t.entries.length).toNat = t.entries.length := UInt16.toNat_ofNat_of_lt' t.count_fits
  rw [bytes, countedBytes, List.length_map, List.append_assoc, counted, bind_of_ok (hcount _), hlength]
  exact gives_times h rest

theorem spelled {p : Decode α} {spell : ρ → Bytes} (h : Spelled p spell) : Spelled (counted p) (bytes spell) := by
  intro bs rest as hread
  obtain ⟨n, mid, hcount, hentries⟩ := ok_of_bind hread
  obtain rfl := ok_of_u2 hcount
  obtain ⟨xs, hlength, rfl⟩ := ok_of_times h hentries
  have hfits : xs.length < 2 ^ 16 := by
    rw [hlength]
    exact n.toNat_lt
  refine ⟨⟨xs, hfits⟩, ?_⟩
  rw [bytes, countedBytes, List.length_map, hlength, List.append_assoc]

/-- One entry more, at any place. -/
def Gains (t : Table ρ) (x : ρ) (t' : Table ρ) : Prop :=
  ∃ before after, t.entries = before ++ after ∧ t'.entries = before ++ x :: after

/-- One entry, at any place, makes way for another. -/
def Changes (t : Table ρ) (becomes : ρ → ρ → Prop) (t' : Table ρ) : Prop :=
  ∃ before x y after, becomes x y ∧ t.entries = before ++ x :: after ∧ t'.entries = before ++ y :: after

end Table

/-! ## Attributes and members -/

/-- An attribute as it stands in a table: the number of its name, and a body that four bytes can measure. -/
structure RawAttribute where
  nameIndex : UInt16
  body : Bytes
  body_fits : body.length < 2 ^ 32

/-- A field or a method as it stands in a table. -/
structure RawMember where
  access : UInt16
  nameIndex : UInt16
  descriptorIndex : UInt16
  attributes : Table RawAttribute

variable (pool : Pool)

namespace RawAttribute

def bytes (a : RawAttribute) : Bytes := wordBytes a.nameIndex.toNat ++ longBytes a.body.length ++ a.body

def meaning (a : RawAttribute) : Except DecodeError Attribute := do
  let name ← pool.text a.nameIndex
  (readBody pool name a.body).map (·.1)

/-- An attribute is measured by its length, whatever is in its body and whoever reads it. -/
theorem gives (a : RawAttribute) : Gives (readAttribute pool) a.bytes (a.meaning pool) := by
  have hlength : Reads u4 (longBytes a.body.length) (UInt32.ofNat a.body.length) :=
    reads_number (k := 4) a.body_fits UInt32.ofNat
  have hbody (name : String) :
      Gives (u4 >>= fun length => take length.toNat >>= fun body => within body (readBody pool name))
        (longBytes a.body.length ++ a.body) ((readBody pool name a.body).map (·.1)) := by
    intro rest
    have hall : (UInt32.ofNat a.body.length).toNat = a.body.length := UInt32.toNat_ofNat_of_lt' a.body_fits
    rw [List.append_assoc, bind_of_ok (hlength _), hall, bind_of_ok (reads_take a.body rest)]
    exact gives_check _ rest
  rw [bytes, List.append_assoc]
  exact (Gives.check (reads_word a.nameIndex) pool.text).bind hbody

theorem spelled : Spelled (readAttribute pool) bytes := by
  intro bs rest said h
  -- what the name and the body were taken for does not matter, only where they stood
  obtain ⟨name, mid, hname, h⟩ := ok_of_bind h
  obtain ⟨length, afterLength, hlength, h⟩ := ok_of_bind h
  obtain ⟨body, afterBody, hbody, h⟩ := ok_of_bind h
  obtain ⟨-, rfl⟩ := ok_of_check h
  obtain ⟨i, rfl⟩ := ok_of_word hname
  obtain rfl := ok_of_u4 hlength
  obtain ⟨rfl, hmeasured⟩ := ok_of_take hbody
  have hfits : body.length < 2 ^ 32 := by
    rw [hmeasured]
    exact length.toNat_lt
  refine ⟨⟨i, body, hfits⟩, ?_⟩
  simp only [bytes, hmeasured, List.append_assoc]

end RawAttribute

/-- What a table of attributes says of the element that it belongs to. -/
def attributesMeaning (t : Table RawAttribute) : Except DecodeError Attributes := do
  let as ← t.entries.mapM (RawAttribute.meaning pool)
  return as.foldl Attributes.add Attributes.none

theorem gives_attributes (t : Table RawAttribute) :
    Gives (readAttributes pool) (t.bytes RawAttribute.bytes) (attributesMeaning pool t) :=
  (t.gives fun a _ => a.gives pool).map _

theorem spelled_attributes : Spelled (readAttributes pool) (Table.bytes RawAttribute.bytes) := by
  intro bs rest attributes h
  obtain ⟨as, mid, has, hpure⟩ := ok_of_bind h
  cases hpure
  exact Table.spelled (RawAttribute.spelled pool) has

namespace RawMember

def bytes (m : RawMember) : Bytes :=
  wordBytes m.access.toNat ++ (wordBytes m.nameIndex.toNat ++ (wordBytes m.descriptorIndex.toNat ++
    m.attributes.bytes RawAttribute.bytes))

def meaning (m : RawMember) : Except DecodeError MemberInfo := do
  let name ← pool.text m.nameIndex
  let descriptor ← pool.text m.descriptorIndex
  let attributes ← attributesMeaning pool m.attributes
  return ⟨⟨m.access⟩, name, descriptor, attributes⟩

theorem gives (m : RawMember) : Gives (readMember pool) m.bytes (m.meaning pool) := by
  intro rest
  have hnamed : Gives (textAt pool) (wordBytes m.nameIndex.toNat) (pool.text m.nameIndex) :=
    Gives.check (reads_word m.nameIndex) pool.text
  have hdescribed : Gives (textAt pool) (wordBytes m.descriptorIndex.toNat) (pool.text m.descriptorIndex) :=
    Gives.check (reads_word m.descriptorIndex) pool.text
  have hmember := hnamed.bind fun name => hdescribed.bind fun descriptor =>
    (gives_attributes pool m.attributes).map fun attributes => MemberInfo.mk ⟨m.access⟩ name descriptor attributes
  rw [bytes, List.append_assoc, readMember, bind_of_ok (reads_word m.access _)]
  exact hmember rest

theorem spelled : Spelled (readMember pool) bytes := by
  intro bs rest member h
  obtain ⟨access, afterAccess, haccess, h⟩ := ok_of_bind h
  obtain ⟨name, afterName, hname, h⟩ := ok_of_bind h
  obtain ⟨descriptor, afterDescriptor, hdescriptor, h⟩ := ok_of_bind h
  obtain ⟨attributes, afterAttributes, hattributes, hpure⟩ := ok_of_bind h
  cases hpure
  obtain rfl := ok_of_u2 haccess
  obtain ⟨i, rfl⟩ := ok_of_word hname
  obtain ⟨j, rfl⟩ := ok_of_word hdescriptor
  obtain ⟨table, rfl⟩ := spelled_attributes pool hattributes
  exact ⟨⟨access, i, j, table⟩, by simp only [bytes, List.append_assoc]⟩

end RawMember

/-! ## The whole file -/

/-- What stands in front of the tables. -/
structure Head where
  version : ClassVersion
  pool : Pool
  access : UInt16
  name : String
  super : Option String
  interfaces : List String

def readHead : Decode Head := do
  readMagic
  let minor ← u2
  let major ← u2
  let pool ← Pool.read
  let access ← u2
  let thisIndex ← u2
  let superIndex ← u2
  let name ← check (pool.className thisIndex)
  let super ← check (readSuper pool superIndex)
  let interfaces ← counted (classNameAt pool)
  return ⟨⟨major, minor⟩, pool, access, name, super, interfaces⟩

def Head.file (h : Head) (fields methods : List MemberInfo) (attributes : Attributes) : ClassFile :=
  ⟨h.version, ⟨h.access⟩, h.name, h.super, h.interfaces, fields, methods, attributes⟩

def readTables (h : Head) : Decode ClassFile := do
  let fields ← counted (readMember h.pool)
  let methods ← counted (readMember h.pool)
  let attributes ← readAttributes h.pool
  return h.file fields methods attributes

theorem read_eq : read = readHead >>= readTables := by
  simp only [read, readRest, readHead, readTables, Head.file, bind_assoc, pure_bind]

theorem exact_head : Exact readHead := by
  refine exact_magic.bind fun _ => ?_
  refine exact_u2.bind fun minor => ?_
  refine exact_u2.bind fun major => ?_
  refine exact_pool.bind fun pool => ?_
  refine exact_u2.bind fun access => ?_
  refine exact_u2.bind fun thisIndex => ?_
  refine exact_u2.bind fun superIndex => ?_
  refine (exact_check _).bind fun name => ?_
  refine (exact_check _).bind fun super => ?_
  exact (exact_counted (exact_classNameAt pool)).map _

/-- The head of a file, the bytes that it was read from, the tables behind them, and whatever stands behind these. -/
structure Layout where
  head : Head
  front : Bytes
  front_reads : Reads readHead front head
  fields : Table RawMember
  methods : Table RawMember
  attributes : Table RawAttribute
  rest : Bytes

namespace Layout

def bytes (l : Layout) : Bytes :=
  l.front ++ (l.fields.bytes RawMember.bytes ++ (l.methods.bytes RawMember.bytes ++
    (l.attributes.bytes RawAttribute.bytes ++ l.rest)))

def meaning (l : Layout) : Except DecodeError ClassFile := do
  let fields ← l.fields.entries.mapM (RawMember.meaning l.head.pool)
  let methods ← l.methods.entries.mapM (RawMember.meaning l.head.pool)
  let attributes ← attributesMeaning l.head.pool l.attributes
  return l.head.file fields methods attributes

theorem parse_bytes (l : Layout) : parse l.bytes = l.meaning := by
  have hmembers (t : Table RawMember) := t.gives fun m _ => m.gives l.head.pool
  have htables := (hmembers l.fields).bind fun fields => (hmembers l.methods).bind fun methods =>
    (gives_attributes l.head.pool l.attributes).map fun attributes => l.head.file fields methods attributes
  have hread : read l.bytes = l.meaning.map fun c => (c, l.rest) := by
    have hall := htables l.rest
    simp only [List.append_assoc] at hall
    rw [read_eq, bytes, bind_of_ok (l.front_reads _)]
    exact hall
  rw [parse_of_read hread]
  cases l.meaning <;> rfl

end Layout

/-- Every file that is accepted is laid out. -/
theorem exists_layout {bs : Bytes} {c : ClassFile} (h : parse bs = .ok c) : ∃ l : Layout, l.bytes = bs := by
  cases hread : read bs with
  | error e =>
    rw [parse_of_read hread] at h
    cases h
  | ok r =>
    obtain ⟨c', rest⟩ := r
    rw [read_eq] at hread
    obtain ⟨head, mid, hhead, htables⟩ := ok_of_bind hread
    obtain ⟨front, rfl, hfront, -⟩ := exact_head.taken hhead
    obtain ⟨fields, afterFields, hfields, htables⟩ := ok_of_bind htables
    obtain ⟨methods, afterMethods, hmethods, htables⟩ := ok_of_bind htables
    obtain ⟨attributes, afterAttributes, hattributes, hpure⟩ := ok_of_bind htables
    cases hpure
    obtain ⟨fieldTable, rfl⟩ := Table.spelled (RawMember.spelled head.pool) hfields
    obtain ⟨methodTable, rfl⟩ := Table.spelled (RawMember.spelled head.pool) hmethods
    obtain ⟨attributeTable, rfl⟩ := spelled_attributes head.pool hattributes
    exact ⟨⟨head, front, hfront, fieldTable, methodTable, attributeTable, rest⟩, rfl⟩

end ClassFile

end ClassAtlas
