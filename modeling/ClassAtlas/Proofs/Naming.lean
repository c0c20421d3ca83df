import ClassAtlas.Proofs.Layout
import ClassAtlas.Proofs.Lookup
import ClassAtlas.Proofs.Replay
import ClassAtlas.Proofs.Utf8

/-
  ClassAtlas.Proofs.Naming — which names of classes fall together.

  A class file spells its names unit by unit of UTF-16 (`Modified.encode`): zero in two
  bytes, and either half of a surrogate pair in three. They are read as UTF-8, which has
  neither, so each of these bytes becomes a U+FFFD and which one it was is lost
  (`decode_encode`). All other units are characters, and those are read as they are.

  The name of the class is one of the constants, and its bytes can be had from the file
  without reading them as a text (`thisName?`). So what is lost can be told exactly: two
  records have one name if and only if their files' names look the same once zeros and
  surrogates are blotted out (`names_alike_iff`). A catalog keeps both otherwise.
-/

namespace ClassAtlas

namespace Text.Modified

open Utf8

/-! ## Names, unit by unit -/

/-- A unit in as few bytes as it takes, but zero in two. -/
def unitBytes (u : UInt16) : List UInt8 :=
  let n := u.toNat
  if n = 0 then [0xC0, 0x80]
  else if n < 0x80 then [UInt8.ofNat n]
  else if n < 0x800 then [UInt8.ofNat (0xC0 + n / 0x40), UInt8.ofNat (0x80 + n % 0x40)]
  else [UInt8.ofNat (0xE0 + n / 0x1000), UInt8.ofNat (0x80 + n / 0x40 % 0x40), UInt8.ofNat (0x80 + n % 0x40)]

def encode (units : List UInt16) : List UInt8 := units.flatMap unitBytes

/-- One half of a character past U+FFFF. -/
def isSurrogate (u : UInt16) : Bool := decide (0xD800 ≤ u.toNat) && decide (u.toNat ≤ 0xDFFF)

/-- What is seen of a unit: one replacement for each byte of a zero or a surrogate, and any other as it is. -/
def seen (u : UInt16) : List Char :=
  if u = 0 then List.replicate 2 replacement
  else if isSurrogate u then List.replicate 3 replacement
  else [Char.ofNat u.toNat]

/-- A unit that is a character of its own and is written as one. -/
def isPlain (u : UInt16) : Bool := u != 0 && !isSurrogate u

/-! ## Bytes that are no characters -/

theorem start_stray {b : UInt8} (hlow : 0x80 ≤ b.toNat) (hhigh : b.toNat < 0xC2) : start b = ([replacement], none) := by
  have h1 : ¬b < 0x80 := UInt8.not_lt.mpr hlow
  have h2 : b < 0xC2 := UInt8.lt_iff_toNat_lt.mpr hhigh
  simp only [start, h1, h2, if_true, if_false]

theorem decodeFrom_stray {b : UInt8} (hlow : 0x80 ≤ b.toNat) (hhigh : b.toNat < 0xC2) (bs : List UInt8) :
    decodeFrom none (b :: bs) = replacement :: decodeFrom none bs := decodeFrom_lead (start_stray hlow hhigh) bs

/-- A byte that cannot continue a character is read again as the start of the next. -/
theorem decodeFrom_broken {w : Awaited} {b : UInt8} (h : w.high.toNat < b.toNat) (bs : List UInt8) :
    decodeFrom (some w) (b :: bs) = replacement :: decodeFrom none (b :: bs) := by
  have hrange : ¬(w.low ≤ b ∧ b ≤ w.high) := by
    rw [UInt8.le_iff_toNat_le, UInt8.le_iff_toNat_le]
    omega
  simp only [decodeFrom, feed, hrange, if_false, List.cons_append]

theorem decodeFrom_surrogate {k l : Nat} (hlow : 32 ≤ k) (hk : k < 64) (hl : l < 64) (bs : List UInt8) :
    decodeFrom none (0xED :: UInt8.ofNat (0x80 + k) :: UInt8.ofNat (0x80 + l) :: bs) =
      replacement :: replacement :: replacement :: decodeFrom none bs := by
  have hkbyte : (UInt8.ofNat (0x80 + k)).toNat = 0x80 + k := UInt8.toNat_ofNat_of_lt' (show 0x80 + k < 256 by omega)
  have hlbyte : (UInt8.ofNat (0x80 + l)).toNat = 0x80 + l := UInt8.toNat_ofNat_of_lt' (show 0x80 + l < 256 by omega)
  have hlead : start 0xED = ([], some ⟨2, 0x0D, 0x80, 0x9F⟩) := by decide
  have hhigh : (0x9F : UInt8).toNat < (UInt8.ofNat (0x80 + k)).toNat := by
    rw [hkbyte]
    exact Nat.add_le_add_left hlow 0x80
  rw [decodeFrom_lead hlead, List.nil_append, decodeFrom_broken hhigh, decodeFrom_stray (by omega) (by omega),
    decodeFrom_stray (by omega) (by omega)]

/-! ## Names as they are seen -/

theorem decodeFrom_unit (u : UInt16) (bs : List UInt8) :
    decodeFrom none (unitBytes u ++ bs) = seen u ++ decodeFrom none bs := by
  have hlt : u.toNat < 0x10000 := u.toNat_lt
  by_cases hzero : u = 0
  · subst hzero
    have hlead : decodeFrom none (0xC0 :: 0x80 :: bs) = replacement :: decodeFrom none (0x80 :: bs) :=
      decodeFrom_stray (by decide) (by decide) _
    exact hlead.trans (congrArg (replacement :: ·) (decodeFrom_stray (by decide) (by decide) bs))
  have hpos : u.toNat ≠ 0 := fun h => hzero (UInt16.toNat_inj.mp h)
  unfold unitBytes seen isSurrogate
  rw [if_neg hzero]
  generalize u.toNat = n at hlt hpos
  simp only [hpos, if_false, Bool.and_eq_true, decide_eq_true_eq]
  by_cases hsurrogate : 0xD800 ≤ n ∧ n ≤ 0xDFFF
  · have hlead : UInt8.ofNat (0xE0 + n / 0x1000) = 0xED := by
      have h : n / 0x1000 = 13 := by omega
      rw [h]
      rfl
    rw [if_neg (by omega), if_neg (by omega), if_pos hsurrogate, hlead]
    exact decodeFrom_surrogate (by omega) (by omega) (by omega) bs
  rw [if_neg hsurrogate]
  by_cases h1 : n < 0x80
  · have hn : (UInt8.ofNat n).toNat = n := UInt8.toNat_ofNat_of_lt' (show n < 256 by omega)
    rw [if_pos h1, List.singleton_append, decodeFrom_lead (start_one (by omega)), hn]
  by_cases h2 : n < 0x800
  · have hcode : n / 0x40 * 64 + n % 0x40 = n := by omega
    rw [if_neg h1, if_pos h2]
    exact (decodeFrom_two (by omega) (by omega) (by omega) bs).trans (by rw [hcode]; rfl)
  · have hcode : (n / 0x1000 * 64 + n / 0x40 % 0x40) * 64 + n % 0x40 = n := by omega
    rw [if_neg h1, if_neg h2]
    exact (decodeFrom_three (by omega) (by omega) (by omega) (by omega) (by omega) bs).trans (by rw [hcode]; rfl)

theorem decode_encode (units : List UInt16) : decode (encode units) = units.flatMap seen := by
  unfold decode encode
  induction units with
  | nil => rfl
  | cons u units ih => rw [List.flatMap_cons, decodeFrom_unit, ih, List.flatMap_cons]

/-! ## Nothing is lost of plain names -/

theorem flatMap_seen_of_plain {units : List UInt16} (h : ∀ u ∈ units, isPlain u) :
    units.flatMap seen = units.map fun u => Char.ofNat u.toNat := by
  induction units with
  | nil => rfl
  | cons u units ih =>
    obtain ⟨hu, hunits⟩ := List.forall_mem_cons.mp h
    simp only [isPlain, Bool.and_eq_true, bne_iff_ne, Bool.not_eq_true'] at hu
    have hseen : seen u = [Char.ofNat u.toNat] := by
      rw [seen, if_neg hu.1, hu.2]
      rfl
    rw [List.flatMap_cons, hseen, ih hunits, List.map_cons, List.singleton_append]

theorem isValidChar_of_not_surrogate {u : UInt16} (h : isSurrogate u = false) : u.toNat.isValidChar := by
  have hlt : u.toNat < 0x10000 := u.toNat_lt
  simp only [isSurrogate, Bool.and_eq_false_iff, decide_eq_false_iff_not, Nat.not_le] at h
  unfold Nat.isValidChar
  omega

theorem eq_of_seen_plain {units units' : List UInt16} (h : ∀ u ∈ units, isPlain u)
    (h' : ∀ u ∈ units', isPlain u) (heq : units.flatMap seen = units'.flatMap seen) : units = units' := by
  have htoNat {us : List UInt16} (hplain : ∀ u ∈ us, isPlain u) :
      (us.flatMap seen).map (fun c => UInt16.ofNat c.toNat) = us := by
    rw [flatMap_seen_of_plain hplain, List.map_map]
    refine (List.map_congr_left fun u hu => ?_).trans (List.map_id us)
    have hvalid := isValidChar_of_not_surrogate (by simpa using (Bool.and_eq_true_iff.mp (hplain u hu)).2)
    simp only [Function.comp_apply, toNat_ofNat hvalid, UInt16.ofNat_toNat, id]
  rw [← htoNat h, heq, htoNat h']

theorem dot_not_mem_seen {u : UInt16} (h : u ≠ 0x2E) : '.' ∉ seen u := by
  unfold seen
  split
  · decide
  cases hsurrogate : isSurrogate u with
  | true =>
    rw [if_pos rfl]
    decide
  | false =>
    intro hdot
    have hchar : '.' = Char.ofNat u.toNat := List.mem_singleton.mp hdot
    have hcode := congrArg Char.toNat hchar
    rw [toNat_ofNat (isValidChar_of_not_surrogate hsurrogate)] at hcode
    exact h (UInt16.toNat_inj.mp hcode.symm)

theorem dot_not_mem_flatMap_seen {units : List UInt16} (h : 0x2E ∉ units) : '.' ∉ units.flatMap seen := by
  intro hdot
  obtain ⟨u, hu, hmem⟩ := List.mem_flatMap.mp hdot
  exact dot_not_mem_seen (fun heq => h (heq ▸ hu)) hmem

end Text.Modified

namespace Name

theorem slashToDot_inj {c d : Char} (hc : '.' ≠ c) (hd : '.' ≠ d) (h : slashToDot c = slashToDot d) : c = d := by
  unfold slashToDot at h
  by_cases hcslash : c = '/'
  · by_cases hdslash : d = '/'
    · rw [hcslash, hdslash]
    · rw [if_pos hcslash, if_neg hdslash] at h
      exact absurd h hd
  · by_cases hdslash : d = '/'
    · rw [if_neg hcslash, if_pos hdslash] at h
      exact absurd h.symm hc
    · rwa [if_neg hcslash, if_neg hdslash] at h

theorem map_slashToDot_inj {as bs : List Char} (has : '.' ∉ as) (hbs : '.' ∉ bs)
    (h : as.map slashToDot = bs.map slashToDot) :
    as = bs := by
  induction as generalizing bs with
  | nil => exact (List.map_eq_nil_iff.mp h.symm).symm
  | cons c as ih =>
    cases bs with
    | nil => cases h
    | cons d bs =>
      obtain ⟨hhead, htail⟩ := List.cons_eq_cons.mp h
      rw [List.mem_cons, not_or] at has hbs
      rw [slashToDot_inj has.1 hbs.1 hhead, ih has.2 hbs.2 htail]

/-- Names without dots keep apart when their slashes become dots. -/
theorem external_inj {a b : List Char} (ha : '.' ∉ a) (hb : '.' ∉ b) :
    external (String.ofList a) = external (String.ofList b) ↔ a = b := by
  unfold external
  rw [String.toList_ofList, String.toList_ofList]
  refine ⟨fun h => ?_, fun h => by rw [h]⟩
  exact map_slashToDot_inj ha hb (String.ofList_injective h)

end Name

namespace ClassFile

open Decode

/-! ## The bytes of the name in the file -/

/-- The bytes of a text constant, without its tag and its length. -/
def textBytes? : Bytes → Option Bytes
  | tag :: high :: low :: body => if tag = 1 then some (body.take (bigEndian [high, low])) else none
  | _ => none

/-- A constant, and the bytes of it if it is a text. -/
def PoolEntry.readKept : Decode (PoolEntry × Option Bytes) :=
  fun bs => (PoolEntry.read bs).map fun r => ((r.1, textBytes? bs), r.2)

def PoolEntry.readKeptSlots : Nat → Decode (List (PoolEntry × Option Bytes))
  | 0 => pure []
  | 1 => do
    let p ← readKept
    return [p]
  | n + 2 => do
    let p ← readKept
    let ps ← if p.1.isWide then readKeptSlots n else readKeptSlots (n + 1)
    return p :: ps

/-- The constants by number, as a pool has them. -/
def cells (ps : List (PoolEntry × Option Bytes)) : List (Option (PoolEntry × Option Bytes)) :=
  none :: ps.flatMap fun p => if p.1.isWide then [some p, none] else [some p]

def kept? (ps : List (PoolEntry × Option Bytes)) (i : UInt16) : Option (PoolEntry × Option Bytes) :=
  ((cells ps)[i.toNat]?).join

/-- The bytes of the name that a class constant points to. -/
def nameBytes? (ps : List (PoolEntry × Option Bytes)) (i : UInt16) : Option Bytes :=
  match kept? ps i with
  | some (.classRef j, _) => (kept? ps j).bind (·.2)
  | _ => none

def readThisName : Decode (Option Bytes) := do
  readMagic
  let _ ← u2
  let _ ← u2
  let count ← u2
  let ps ← PoolEntry.readKeptSlots (count.toNat - 1)
  let _ ← u2
  let thisIndex ← u2
  return nameBytes? ps thisIndex

/-- The bytes that the name of the class is spelled with. -/
def thisName? (bs : Bytes) : Option Bytes :=
  match readThisName bs with
  | .ok (w, _) => w
  | .error _ => none

/-- The text is what the bytes are read as. -/
def PoolEntry.Keeps (p : PoolEntry × Option Bytes) : Prop :=
  ∀ s, p.1 = .utf8 s → ∃ w, p.2 = some w ∧ s = Text.Utf8.decodeString w

theorem textBytes?_text {body : Bytes} {length : UInt16} (h : body.length = length.toNat) (rest : Bytes) :
    textBytes? (1 :: (wordBytes length.toNat ++ (body ++ rest))) = some body := by
  have hbytes : wordBytes length.toNat = [UInt8.ofNat (length.toNat >>> 8), UInt8.ofNat (length.toNat >>> 0)] := rfl
  have hnumber : bigEndian (wordBytes length.toNat) = length.toNat := bigEndian_bigEndian (k := 2) length.toNat_lt
  rw [hbytes] at hnumber ⊢
  simp only [List.cons_append, List.nil_append, textBytes?, if_true, hnumber]
  rw [← h, List.take_left]

/-- Only behind the tag of a text comes a text, and it is read from as many bytes as its length says. -/
theorem ok_of_utf8 {tag : UInt8} {bs rest : Bytes} {s : String} (h : PoolEntry.ofTag tag bs = .ok (.utf8 s, rest)) :
    tag = 1 ∧ ∃ (length : UInt16) (body : Bytes), body.length = length.toNat ∧
      bs = wordBytes length.toNat ++ (body ++ rest) ∧ s = Text.Utf8.decodeString body := by
  unfold PoolEntry.ofTag at h
  generalize htag : tag.toNat = n at h
  split at h
  · obtain ⟨length, mid, hlength, h⟩ := ok_of_bind h
    obtain ⟨body, mid', hbody, hpure⟩ := ok_of_bind h
    cases hpure
    obtain ⟨rfl, hmeasured⟩ := ok_of_take hbody
    exact ⟨UInt8.toNat_inj.mp htag, length, body, hmeasured, ok_of_u2 hlength, rfl⟩
  all_goals first
    | cases h
    | obtain ⟨_, _, _, hpure⟩ := ok_of_bind h
      cases hpure

theorem keeps_readKept {bs rest : Bytes} {e : PoolEntry} (h : PoolEntry.read bs = .ok (e, rest)) :
    PoolEntry.Keeps (e, textBytes? bs) := by
  rintro s rfl
  obtain ⟨tag, mid, htag, htext⟩ := ok_of_bind h
  obtain ⟨rfl, length, body, hlength, rfl, rfl⟩ := ok_of_utf8 htext
  rw [ok_of_u1 htag]
  exact ⟨body, textBytes?_text hlength rest, rfl⟩

theorem readKept_of_read {bs rest : Bytes} {e : PoolEntry} (h : PoolEntry.read bs = .ok (e, rest)) :
    PoolEntry.readKept bs = .ok ((e, textBytes? bs), rest) := by
  rw [PoolEntry.readKept, h]
  rfl

/-- `kept` reads the constants that `plain` reads, and keeps the bytes of texts. -/
def KeepsTexts (plain : Decode (List PoolEntry)) (kept : Decode (List (PoolEntry × Option Bytes))) : Prop :=
  ∀ (bs rest : Bytes) (es : List PoolEntry), plain bs = .ok (es, rest) →
    ∃ ps, kept bs = .ok (ps, rest) ∧ ps.map (·.1) = es ∧ ∀ p ∈ ps, PoolEntry.Keeps p

theorem KeepsTexts.cons {e : PoolEntry} {p : PoolEntry × Option Bytes} {plain : Decode (List PoolEntry)}
    {kept : Decode (List (PoolEntry × Option Bytes))} (h : KeepsTexts plain kept) (he : p.1 = e)
    (hp : PoolEntry.Keeps p) :
    KeepsTexts (plain >>= fun es => pure (e :: es)) (kept >>= fun ps => pure (p :: ps)) := by
  intro bs rest es hread
  obtain ⟨es', mid, hmore, hpure⟩ := ok_of_bind hread
  cases hpure
  obtain ⟨ps, hkept, rfl, hkeeps⟩ := h _ _ _ hmore
  exact ⟨p :: ps, bind_of_ok hkept, by rw [List.map_cons, he], List.forall_mem_cons.mpr ⟨hp, hkeeps⟩⟩

theorem keepsTexts_nil : KeepsTexts (pure []) (pure []) := by
  intro bs rest es h
  cases h
  exact ⟨[], rfl, rfl, fun p hp => absurd hp List.not_mem_nil⟩

/-- How many constants are read hangs on the constants alone, and these are the same. -/
theorem keepsTexts_slots : ∀ n, KeepsTexts (PoolEntry.readSlots n) (PoolEntry.readKeptSlots n)
  | 0 => keepsTexts_nil
  | 1 => by
    intro bs rest es h
    obtain ⟨e, mid, hread, h⟩ := ok_of_bind h
    rw [PoolEntry.readKeptSlots, bind_of_ok (readKept_of_read hread)]
    exact keepsTexts_nil.cons rfl (keeps_readKept hread) _ _ _ h
  | n + 2 => by
    intro bs rest es h
    obtain ⟨e, mid, hread, h⟩ := ok_of_bind h
    rw [PoolEntry.readKeptSlots, bind_of_ok (readKept_of_read hread)]
    cases hwide : e.isWide with
    | true =>
      simp only [hwide, if_true] at h ⊢
      exact (keepsTexts_slots n).cons rfl (keeps_readKept hread) _ _ _ h
    | false =>
      simp only [hwide, Bool.false_eq_true, if_false] at h ⊢
      exact (keepsTexts_slots (n + 1)).cons rfl (keeps_readKept hread) _ _ _ h

theorem map_cells (ps : List (PoolEntry × Option Bytes)) :
    (cells ps).map (Option.map (·.1)) = (Pool.ofEntries (ps.map (·.1))).slots.toList := by
  unfold cells Pool.ofEntries
  rw [List.map_cons, List.toList_toArray]
  congr 1
  induction ps with
  | nil => rfl
  | cons p ps ih =>
    rw [List.flatMap_cons, List.map_append, ih, List.map_cons, List.flatMap_cons]
    cases p.1.isWide <;> rfl

theorem kept?_fst (ps : List (PoolEntry × Option Bytes)) (i : UInt16) :
    (kept? ps i).map (·.1) = Pool.entry? (Pool.ofEntries (ps.map (·.1))) i := by
  rw [Pool.entry?, ← Array.getElem?_toList, ← map_cells, List.getElem?_map, kept?]
  cases (cells ps)[i.toNat]? with
  | none => rfl
  | some cell => cases cell <;> rfl

theorem mem_of_kept? {ps : List (PoolEntry × Option Bytes)} {i : UInt16} {p : PoolEntry × Option Bytes}
    (h : kept? ps i = some p) :
    p ∈ ps := by
  have hcell : some p ∈ cells ps := List.mem_of_getElem? (Option.join_eq_some_iff.mp h)
  rw [cells, List.mem_cons] at hcell
  obtain ⟨q, hq, hmem⟩ := List.mem_flatMap.mp (hcell.resolve_left nofun)
  cases hwide : q.1.isWide <;> simp [hwide] at hmem <;> exact hmem ▸ hq

/-- The name that a class constant leads to is read from the bytes that it leads to. -/
theorem nameBytes?_of_className {ps : List (PoolEntry × Option Bytes)} (hkeeps : ∀ p ∈ ps, PoolEntry.Keeps p)
    {i : UInt16} {name : String} (h : (Pool.ofEntries (ps.map (·.1))).className i = .ok name) :
    ∃ w, nameBytes? ps i = some w ∧ name = Text.Utf8.decodeString w := by
  unfold Pool.className Pool.text at h
  rw [← kept?_fst] at h
  unfold nameBytes?
  split at h
  · next j hclass =>
    obtain ⟨⟨_, kept⟩, hi, rfl⟩ := Option.map_eq_some_iff.mp hclass
    rw [← kept?_fst] at h
    split at h
    · next s htext =>
      cases h
      obtain ⟨p, hj, hname⟩ := Option.map_eq_some_iff.mp htext
      obtain ⟨w, hw, rfl⟩ := hkeeps p (mem_of_kept? hj) _ hname
      refine ⟨w, ?_, rfl⟩
      simp only [hi, hj, Option.bind_some, hw]
    · cases h
  · cases h

/-- A class file that is accepted has a name, and it is read from the bytes of that name. -/
theorem thisName?_of_parse {bs : Bytes} {c : ClassFile} (h : parse bs = .ok c) :
    ∃ w, thisName? bs = some w ∧ c.name = Text.Utf8.decodeString w := by
  cases hread : read bs with
  | error e =>
    rw [parse_of_read hread] at h
    cases h
  | ok r =>
    obtain ⟨c', rest⟩ := r
    rw [parse_of_read hread] at h
    cases h
    obtain ⟨_, afterMagic, hmagic, hread⟩ := ok_of_bind hread
    obtain ⟨minor, afterMinor, hminor, hread⟩ := ok_of_bind hread
    obtain ⟨major, afterMajor, hmajor, hread⟩ := ok_of_bind hread
    obtain ⟨pool, afterPool, hpool, hread⟩ := ok_of_bind hread
    obtain ⟨count, afterCount, hcount, hpool⟩ := ok_of_bind hpool
    obtain ⟨es, _, hslots, hpure⟩ := ok_of_bind hpool
    cases hpure
    obtain ⟨access, afterAccess, haccess, hread⟩ := ok_of_bind hread
    obtain ⟨thisIndex, afterThis, hthis, hread⟩ := ok_of_bind hread
    obtain ⟨superIndex, afterSuper, hsuper, hread⟩ := ok_of_bind hread
    obtain ⟨name, _, hname, hread⟩ := ok_of_bind hread
    obtain ⟨hname, -⟩ := ok_of_check hname
    -- what comes behind the name does not change it
    obtain ⟨_, _, -, hread⟩ := ok_of_bind hread
    obtain ⟨_, _, -, hread⟩ := ok_of_bind hread
    obtain ⟨_, _, -, hread⟩ := ok_of_bind hread
    obtain ⟨_, _, -, hread⟩ := ok_of_bind hread
    obtain ⟨_, _, -, hpure⟩ := ok_of_bind hread
    cases hpure
    obtain ⟨ps, hkept, rfl, hkeeps⟩ := keepsTexts_slots _ _ _ _ hslots
    obtain ⟨w, hw, hdecoded⟩ := nameBytes?_of_className hkeeps hname
    refine ⟨w, ?_, hdecoded⟩
    rw [thisName?, readThisName, bind_of_ok hmagic, bind_of_ok hminor, bind_of_ok hmajor, bind_of_ok hcount,
      bind_of_ok hkept, bind_of_ok haccess, bind_of_ok hthis, ← hw]
    rfl

end ClassFile

/-! ## Which records have one name -/

open Text.Modified

/-- Two classes of different names that a catalog has neither of are both put in, and both are found. -/
theorem Catalog.insert_both {catalog : Catalog} {r r' : ClassRecord} (hne : r.name ≠ r'.name)
    (hr : catalog.find? r.name = none) (hr' : catalog.find? r'.name = none) :
    let first := catalog.insert r
    let second := first.1.insert r'
    first.2 = true ∧ second.2 = true ∧ second.1.find? r.name = some r ∧ second.1.find? r'.name = some r' := by
  intro first second
  have hfirst : first.1.find? r'.name = none := by rw [find?_insert, hr', Option.none_or, if_neg hne]
  refine ⟨?_, ?_, ?_, ?_⟩
  · rw [insert_isNew, hr]
    rfl
  · rw [insert_isNew, hfirst]
    rfl
  · rw [find?_insert, find?_insert, hr, Option.none_or, if_pos rfl, Option.some_or]
  · rw [find?_insert, hfirst, Option.none_or, if_pos rfl]

/-- The record of a class is named by what is seen of its name. -/
theorem name_eq_seen {units : List UInt16} {location : String} {retain : Bool} {bs : Bytes}
    {version : ClassVersion} {r : ClassRecord} (h : decodeUnit location retain bs = .ok (version, r))
    (hname : ClassFile.thisName? bs = some (encode units)) :
    r.name = Name.external (String.ofList (units.flatMap seen)) := by
  rw [decodeUnit_eq] at h
  split at h
  · cases h
  · next c hparse =>
    cases h
    obtain ⟨w, hw, hdecoded⟩ := ClassFile.thisName?_of_parse hparse
    rw [hname] at hw
    cases hw
    rw [ClassFile.record, hdecoded, Text.Utf8.decodeString, decode_encode]

/-- Take two class files that are accepted, with names of any units but dots. Their records have one name
    if and only if the names are seen alike. Plain names never are, unless they are the same to begin
    with; and classes whose names are not seen alike are both kept by a catalog that has neither. -/
theorem names_alike_iff {units units' : List UInt16} {location location' : String} {retain retain' : Bool}
    {bs bs' : Bytes} {version version' : ClassVersion} {r r' : ClassRecord}
    (hr : decodeUnit location retain bs = .ok (version, r))
    (hr' : decodeUnit location' retain' bs' = .ok (version', r'))
    (hname : ClassFile.thisName? bs = some (encode units))
    (hname' : ClassFile.thisName? bs' = some (encode units')) (hdot : 0x2E ∉ units) (hdot' : 0x2E ∉ units') :
    (r.name = r'.name ↔ units.flatMap seen = units'.flatMap seen) ∧
      (encode units ≠ encode units' →
        (∀ u ∈ units, isPlain u) → (∀ u ∈ units', isPlain u) → r.name ≠ r'.name) ∧
      (units.flatMap seen ≠ units'.flatMap seen → ∀ catalog : Catalog,
        catalog.find? r.name = none → catalog.find? r'.name = none →
          let first := catalog.insert r
          let second := first.1.insert r'
          first.2 = true ∧ second.2 = true ∧ second.1.find? r.name = some r ∧ second.1.find? r'.name = some r') := by
  have hiff : r.name = r'.name ↔ units.flatMap seen = units'.flatMap seen := by
    rw [name_eq_seen hr hname, name_eq_seen hr' hname']
    exact Name.external_inj (dot_not_mem_flatMap_seen hdot) (dot_not_mem_flatMap_seen hdot')
  refine ⟨hiff, ?_, ?_⟩
  · intro hne hplain hplain' hsame
    exact hne (congrArg encode (eq_of_seen_plain hplain hplain' (hiff.mp hsame)))
  · intro hne catalog hfree hfree'
    exact Catalog.insert_both (fun h => hne (hiff.mp h)) hfree hfree'

/-! ## Bare classes -/

/-- A class file with nothing in it but the name of the class. -/
def bareClass (name : Bytes) : Bytes :=
  [0xCA, 0xFE, 0xBA, 0xBE, 0, 0, 0, 52, 0, 3, 1] ++ ClassFile.wordBytes name.length ++ name ++
    [7, 0, 1, 0, 0x21, 0, 2, 0, 0, 0, 0, 0, 0, 0, 0, 0, 0]

def bareRecord (name : String) : ClassRecord := ⟨name, none, [], ⟨0x21⟩, "/classes", none, [], [], []⟩

/-- A name that takes two bytes and one that takes three. -/
theorem names_alike_accented :
    (bareRecord "\u00e9").name ≠ (bareRecord "\u6f22").name ∧
      ((Catalog.empty.insert (bareRecord "\u00e9")).1.insert (bareRecord "\u6f22")).2 = true := by
  have hfirst : decodeUnit "/classes" false (bareClass (encode [0xE9])) = .ok (⟨52, 0⟩, bareRecord "\u00e9") := rfl
  have hsecond : decodeUnit "/classes" false (bareClass (encode [0x6F22])) = .ok (⟨52, 0⟩, bareRecord "\u6f22") := rfl
  have hname : ClassFile.thisName? (bareClass (encode [0xE9])) = some (encode [0xE9]) := rfl
  have hname' : ClassFile.thisName? (bareClass (encode [0x6F22])) = some (encode [0x6F22]) := rfl
  obtain ⟨-, hplain, hboth⟩ := names_alike_iff hfirst hsecond hname hname' (by decide) (by decide)
  have hshown : ∀ u ∈ [0xE9], isPlain u := List.forall_mem_singleton.mpr (by decide)
  have hshown' : ∀ u ∈ [0x6F22], isPlain u := List.forall_mem_singleton.mpr (by decide)
  refine ⟨hplain (by decide) hshown hshown', ?_⟩
  exact (hboth (by decide) Catalog.empty rfl rfl).2.1

/-- The names are two characters past U+FFFF, each a surrogate pair in six bytes. Six replacements are
    seen of either, so the second class is taken for the first and is not kept. -/
theorem pairs_fall_together :
    ∃ r r', ClassFile.thisName? (bareClass (encode [0xD801, 0xDC00])) = some (encode [0xD801, 0xDC00]) ∧
      ClassFile.thisName? (bareClass (encode [0xD801, 0xDC01])) = some (encode [0xD801, 0xDC01]) ∧
      encode [0xD801, 0xDC00] ≠ encode [0xD801, 0xDC01] ∧
      decodeUnit "/classes" false (bareClass (encode [0xD801, 0xDC00])) = .ok (⟨52, 0⟩, r) ∧
      decodeUnit "/classes" false (bareClass (encode [0xD801, 0xDC01])) = .ok (⟨52, 0⟩, r') ∧
      r.name = r'.name ∧ ((Catalog.empty.insert r).1.insert r').2 = false := by
  refine ⟨bareRecord (String.ofList (List.replicate 6 Text.Utf8.replacement)),
    bareRecord (String.ofList (List.replicate 6 Text.Utf8.replacement)), rfl, rfl, by decide, rfl, rfl, rfl, ?_⟩
  decide

end ClassAtlas
