import ClassAtlas.Proofs.Constants
import ClassAtlas.Proofs.Layout

/-
  ClassAtlas.Proofs.Numbering — the numbers of the constants in a file.

  A pool is read constant by constant until the numbers reach the declared count. Here the
  file is looked at instead: a constant is a tag and the bytes behind it, as many as go with
  the tag (`RawConstant`), and it takes two numbers if the tag is that of a long or a double.
  What the reader takes off the front is the count and one constant after another
  (`constants_of_read`), and each is found under the number that comes after those of the
  constants before it, and nothing else is found anywhere (`slot_iff`).

  The reader only looks at the count before it reads a constant. So every constant begins
  below the count, but a long or a double whose number is the last one below it takes the
  count itself as its second number. Nothing is held there, yet the pool goes that far:
  a text, a class or an integer is not found at the count, and a constant for a field is
  found to be none where the number should have been refused (`beyond_count`).
-/

namespace ClassAtlas.ClassFile

open Decode

/-! ## Constants as they stand in the file -/

/-- How many bytes go with a tag; those of a text begin with the length of the text. -/
def bodySize? (tag : UInt8) (body : Bytes) : Option Nat :=
  match tag.toNat with
  | 1 => some (2 + bigEndian (body.take 2))
  | 3 | 4 | 9 | 10 | 11 | 12 | 17 | 18 => some 4
  | 5 | 6 => some 8
  | 7 | 8 | 16 | 19 | 20 => some 2
  | 15 => some 3
  | _ => none

/-- A constant as it stands in a file. -/
@[ext]
structure RawConstant where
  tag : UInt8
  body : Bytes
  sized : bodySize? tag body = some body.length

namespace RawConstant

def bytes (c : RawConstant) : Bytes := c.tag :: c.body

/-- The tag and what goes with it. -/
def size (c : RawConstant) : Nat := 1 + (bodySize? c.tag c.body).getD 0

def isWide (c : RawConstant) : Bool := c.tag == 5 || c.tag == 6

/-- How many numbers the constant takes. -/
def slots (c : RawConstant) : Nat := if c.isWide then 2 else 1

/-- What the bytes say. -/
def entry (c : RawConstant) : PoolEntry :=
  match c.tag.toNat with
  | 1 => .utf8 (Text.Utf8.decodeString (c.body.drop 2))
  | 3 => .integer (UInt32.ofNat (bigEndian c.body)).toInt32
  | 4 => .float (UInt32.ofNat (bigEndian c.body))
  | 5 => .long (UInt64.ofNat (bigEndian c.body)).toInt64
  | 6 => .double (UInt64.ofNat (bigEndian c.body))
  | 7 => .classRef (UInt16.ofNat (bigEndian c.body))
  | 8 => .str (UInt16.ofNat (bigEndian c.body))
  | _ => .other

/-- The tag alone decides how many numbers are taken. -/
theorem isWide_entry (c : RawConstant) : c.entry.isWide = c.isWide := by
  have htag : c.isWide = (c.tag.toNat == 5 || c.tag.toNat == 6) := by
    simp only [isWide, ← UInt8.toNat_inj, Bool.beq_eq_decide_eq]
    rfl
  rw [htag, entry]
  generalize c.tag.toNat = n
  split
  all_goals first | rfl | simp_all [PoolEntry.isWide]

theorem length_bytes (c : RawConstant) : c.bytes.length = c.size := by
  rw [size, c.sized, bytes, List.length_cons, Option.getD_some, Nat.add_comm]

/-- The size goes by the tag, but that a text has its length in front. -/
theorem bodySize?_congr {tag : UInt8} {body other : Bytes} (h : tag.toNat = 1 → body.take 2 = other.take 2) :
    bodySize? tag body = bodySize? tag other := by
  unfold bodySize?
  generalize tag.toNat = n at h
  split
  · rw [h rfl]
  all_goals rfl

theorem two_le_of_text {c : RawConstant} (h : c.tag.toNat = 1) : 2 ≤ c.body.length := by
  have hsized := c.sized
  simp only [bodySize?, h, Option.some.injEq] at hsized
  omega

/-- A constant can be told from whatever comes behind it. -/
theorem bytes_inj {c d : RawConstant} {x y : Bytes} (h : c.bytes ++ x = d.bytes ++ y) : c = d ∧ x = y := by
  simp only [bytes, List.cons_append, List.cons.injEq] at h
  obtain ⟨htag, hbody⟩ := h
  have hsize : bodySize? c.tag c.body = bodySize? c.tag d.body := by
    refine bodySize?_congr fun htext => ?_
    have htake := congrArg (List.take 2) hbody
    rwa [List.take_append_of_le_length (two_le_of_text htext),
      List.take_append_of_le_length (two_le_of_text (htag ▸ htext))] at htake
  have hlength : c.body.length = d.body.length := by
    rw [c.sized, htag, d.sized] at hsize
    exact Option.some.inj hsize
  obtain ⟨hfront, hrest⟩ := List.append_inj hbody hlength
  exact ⟨RawConstant.ext htag hfront, hrest⟩

theorem flatMap_bytes_inj {cs ds : List RawConstant} {rest : Bytes}
    (h : cs.flatMap bytes ++ rest = ds.flatMap bytes ++ rest) : cs = ds := by
  -- a constant more would be bytes more
  have hnil (c : RawConstant) (more : Bytes) : rest ≠ c.bytes ++ more ++ rest := by
    intro heq
    have hlength := congrArg List.length heq
    simp only [List.length_append, bytes, List.length_cons] at hlength
    omega
  induction cs generalizing ds with
  | nil =>
    cases ds with
    | nil => rfl
    | cons d ds => exact absurd h (hnil d _)
  | cons c cs ih =>
    cases ds with
    | nil => exact absurd h.symm (hnil c _)
    | cons d ds =>
      rw [List.flatMap_cons, List.flatMap_cons, List.append_assoc, List.append_assoc] at h
      obtain ⟨rfl, hrest⟩ := bytes_inj h
      rw [ih hrest]

end RawConstant

/-! ## One constant -/

/-- The next `k` bytes, made into something in two steps. -/
theorem ok_of_taken {α β : Type} {k : Nat} {f : Bytes → α} {g : α → β} {bs rest : Bytes} {b : β}
    (h : ((take k >>= fun body => pure (f body)) >>= fun a => pure (g a)) bs = .ok (b, rest)) :
    ∃ body, bs = body ++ rest ∧ body.length = k ∧ b = g (f body) := by
  obtain ⟨a, mid, hmake, hpure⟩ := ok_of_bind h
  cases hpure
  obtain ⟨body, mid', htake, hpure⟩ := ok_of_bind hmake
  cases hpure
  obtain ⟨rfl, hlength⟩ := ok_of_take htake
  exact ⟨body, rfl, hlength, rfl⟩

/-- Whatever is read as a constant stands in the file as one, and the reader stops right behind it. -/
theorem constant_of_read {bs rest : Bytes} {e : PoolEntry} (h : PoolEntry.read bs = .ok (e, rest)) :
    ∃ c : RawConstant, c.entry = e ∧ bs = c.bytes ++ rest := by
  obtain ⟨tag, mid, htag, hbehind⟩ := ok_of_bind h
  rw [ok_of_u1 htag]
  -- it is enough to find the body
  suffices hbody : ∃ body, mid = body ++ rest ∧ ∃ hsized : bodySize? tag body = some body.length,
      RawConstant.entry ⟨tag, body, hsized⟩ = e by
    obtain ⟨body, rfl, hsized, hentry⟩ := hbody
    exact ⟨⟨tag, body, hsized⟩, hentry, rfl⟩
  unfold PoolEntry.ofTag at hbehind
  simp only [bodySize?, RawConstant.entry]
  generalize tag.toNat = n at hbehind ⊢
  split at hbehind
  · -- a text: its length, and then as many bytes
    obtain ⟨length, afterLength, hlength, h⟩ := ok_of_bind hbehind
    obtain ⟨text, afterText, htext, hpure⟩ := ok_of_bind h
    cases hpure
    obtain rfl := ok_of_u2 hlength
    obtain ⟨rfl, hmeasured⟩ := ok_of_take htext
    have htwo : (wordBytes length.toNat).length = 2 := length_bigEndian _ 2
    have hnumber : bigEndian (wordBytes length.toNat) = length.toNat := bigEndian_bigEndian (k := 2) length.toNat_lt
    refine ⟨wordBytes length.toNat ++ text, by rw [List.append_assoc], ?_, ?_⟩
    · simp [htwo, hnumber, hmeasured]
    · simp [htwo]
  all_goals first
    -- a number or a reference, of as many bytes as its kind has
    | obtain ⟨body, rfl, hlength, rfl⟩ := ok_of_taken hbehind
      exact ⟨body, rfl, by simp [hlength], rfl⟩
    -- as many bytes skipped
    | obtain ⟨body, mid', htake, hpure⟩ := ok_of_bind hbehind
      cases hpure
      obtain ⟨rfl, hlength⟩ := ok_of_take htake
      exact ⟨body, rfl, by simp [hlength], rfl⟩
    | cases hbehind

/-! ## One after another -/

/-- Constants that take `n` numbers, or one more if the last begins below that. -/
structure Fill (n : Nat) (es : List PoolEntry) : Prop where
  reaches : n ≤ (es.map PoolEntry.slots).sum
  begins : ∀ j < es.length, ((es.take j).map PoolEntry.slots).sum < n

/-- The numbers that a constant takes are taken off those that are left. -/
theorem readSlots_succ (n : Nat) :
    PoolEntry.readSlots (n + 1) = (do
      let e ← PoolEntry.read
      let es ← PoolEntry.readSlots (n + 1 - e.slots)
      return e :: es) := by
  cases n with
  | zero =>
    rw [PoolEntry.readSlots]
    congr 1
    funext e
    have hslots : 0 + 1 - e.slots = 0 := by unfold PoolEntry.slots; split <;> rfl
    rw [hslots]
    rfl
  | succ n =>
    rw [PoolEntry.readSlots]
    congr 1
    funext e
    unfold PoolEntry.slots
    cases e.isWide <;> rfl

theorem constants_of_readSlots (n : Nat) {bs rest : Bytes} {es : List PoolEntry}
    (h : PoolEntry.readSlots n bs = .ok (es, rest)) :
    ∃ cs : List RawConstant,
      cs.map RawConstant.entry = es ∧ bs = cs.flatMap RawConstant.bytes ++ rest ∧ Fill n es := by
  induction n using Nat.strongRecOn generalizing bs es with
  | _ n ih =>
    cases n with
    | zero =>
      cases h
      exact ⟨[], rfl, rfl, Nat.le_refl 0, by simp⟩
    | succ n =>
      rw [readSlots_succ] at h
      obtain ⟨e, mid, hfirst, hmore⟩ := ok_of_bind h
      obtain ⟨es', mid', hrest, hpure⟩ := ok_of_bind hmore
      cases hpure
      have hpos := e.slots_pos
      obtain ⟨c, rfl, rfl⟩ := constant_of_read hfirst
      obtain ⟨cs, rfl, rfl, hfill⟩ := ih (n + 1 - c.entry.slots) (by omega) hrest
      refine ⟨c :: cs, rfl, by simp, ?_, ?_⟩
      · have hreaches := hfill.reaches
        rw [List.map_cons, List.sum_cons]
        omega
      · rintro (_ | j) hj
        · simp
        · have hbegins := hfill.begins j (by simpa using hj)
          rw [List.take_succ_cons, List.map_cons, List.sum_cons]
          omega

/-- The pool is made of the constants behind the declared count, up to where their numbers reach it. -/
theorem constants_of_read {bs rest : Bytes} {pool : Pool} (h : Pool.read bs = .ok (pool, rest)) :
    ∃ (count : UInt16) (cs : List RawConstant), bs = wordBytes count.toNat ++ (cs.flatMap RawConstant.bytes ++ rest) ∧
      pool = .ofEntries (cs.map RawConstant.entry) ∧ Fill (count.toNat - 1) (cs.map RawConstant.entry) := by
  obtain ⟨count, mid, hcount, hslots⟩ := ok_of_bind h
  obtain ⟨es, mid', hentries, hpure⟩ := ok_of_bind hslots
  cases hpure
  obtain ⟨cs, rfl, rfl, hfill⟩ := constants_of_readSlots _ hentries
  exact ⟨count, cs, ok_of_u2 hcount, rfl, hfill⟩

/-! ## Numbers of a file's constants -/

/-- The number of the constant at place `j`: it comes after 0 and after the numbers of the constants before it. -/
def numberAt (cs : List RawConstant) (j : Nat) : Nat := 1 + ((cs.take j).map RawConstant.slots).sum

theorem nextNumber_take (cs : List RawConstant) (j : Nat) :
    nextNumber ((cs.map RawConstant.entry).take j) = numberAt cs j := by
  have hslots : PoolEntry.slots ∘ RawConstant.entry = RawConstant.slots := by
    funext c
    rw [Function.comp_apply, PoolEntry.slots, c.isWide_entry, RawConstant.slots]
  rw [nextNumber_eq, numberAt, ← List.map_take, List.map_map, hslots]

theorem unused_iff (cs : List RawConstant) (n : Nat) :
    (Pool.ofEntries (cs.map RawConstant.entry)).slots[n]? = some none ↔
      n = 0 ∨ ∃ j c, cs[j]? = some c ∧ c.isWide ∧ n = numberAt cs j + 1 := by
  rw [slot_iff]
  simp only [nextNumber_take, List.getElem?_map, Option.map_eq_some_iff]
  constructor
  · rintro (⟨hzero, -⟩ | ⟨j, _, ⟨c, hc, rfl⟩, ⟨-, hnone⟩ | ⟨hwide, hn, -⟩⟩)
    · exact .inl hzero
    · cases hnone
    · exact .inr ⟨j, c, hc, by rwa [← c.isWide_entry], hn⟩
  · rintro (hzero | ⟨j, c, hc, hwide, hn⟩)
    · exact .inl ⟨hzero, trivial⟩
    · exact .inr ⟨j, c.entry, ⟨c, hc, rfl⟩, .inr ⟨by rwa [c.isWide_entry], hn, trivial⟩⟩

/-- The bytes that a pool was read from are a count and one constant after another, in one way only. The
    constants are found under consecutive numbers from 1 on, of which a long or a double takes two; all
    begin below the count, and together they reach it. Under 0 and under the second number of a long or a
    double nothing is held, and no other number goes unused. -/
theorem constants_numbered {bs rest : Bytes} {pool : Pool} (h : Pool.read bs = .ok (pool, rest)) :
    ∃ (count : UInt16) (cs : List RawConstant),
      bs = wordBytes count.toNat ++ (cs.flatMap RawConstant.bytes ++ rest) ∧
      (∀ ds : List RawConstant, bs = wordBytes count.toNat ++ (ds.flatMap RawConstant.bytes ++ rest) → ds = cs) ∧
      bs.length = 2 + (cs.map RawConstant.size).sum + rest.length ∧
      (∀ j c, cs[j]? = some c →
        numberAt cs j < count.toNat ∧ pool.entry? (UInt16.ofNat (numberAt cs j)) = some c.entry) ∧
      (∀ n, pool.slots[n]? = some none ↔ n = 0 ∨ ∃ j c, cs[j]? = some c ∧ c.isWide ∧ n = numberAt cs j + 1) ∧
      pool.slots.size = numberAt cs cs.length ∧ count.toNat ≤ numberAt cs cs.length := by
  obtain ⟨count, cs, rfl, rfl, hfill⟩ := constants_of_read h
  have hall : nextNumber (cs.map RawConstant.entry) = numberAt cs cs.length := by
    rw [← nextNumber_take, ← List.length_map RawConstant.entry, List.take_length]
  refine ⟨count, cs, rfl, fun ds hds => ?_, ?_, fun j c hc => ?_, fun n => ?_, ?_, ?_⟩
  · exact (RawConstant.flatMap_bytes_inj (List.append_cancel_left hds)).symm
  · have htwo : (wordBytes count.toNat).length = 2 := length_bigEndian _ 2
    have hsizes : (cs.flatMap RawConstant.bytes).length = (cs.map RawConstant.size).sum := by
      simp only [List.length_flatMap, RawConstant.length_bytes]
    rw [List.length_append, List.length_append, htwo, hsizes, Nat.add_assoc]
  · have hentry : (cs.map RawConstant.entry)[j]? = some c.entry := by rw [List.getElem?_map, hc, Option.map_some]
    obtain ⟨hj, -⟩ := List.getElem?_eq_some_iff.mp hentry
    have hbelow : numberAt cs j < count.toNat := by
      have hbegins := hfill.begins j hj
      rw [← nextNumber_take, nextNumber_eq]
      omega
    -- the number is below the count, and so it can be written
    have hnumber : (UInt16.ofNat (numberAt cs j)).toNat = numberAt cs j :=
      UInt16.toNat_ofNat_of_lt' (Nat.lt_trans hbelow count.toNat_lt)
    refine ⟨hbelow, ?_⟩
    rw [Pool.entry?, hnumber,
      (slot_iff _ _ _).mpr (.inr ⟨j, c.entry, hentry, .inl ⟨(nextNumber_take cs j).symm, rfl⟩⟩)]
    rfl
  · exact unused_iff cs n
  · rw [size_ofEntries, hall]
  · have hreaches := hfill.reaches
    rw [← hall, nextNumber_eq]
    omega

/-- Three constants: a long, a text and an integer, and three bytes that are none of the pool's. -/
def mixedBytes : Bytes := [0, 5, 5, 0, 0, 0, 0, 0, 0, 0, 7, 1, 0, 1, 65, 3, 0, 0, 0, 9, 0, 33, 0]

def mixedPool : Pool := .ofEntries [.long 7, .utf8 "A", .integer 9]

theorem constants_numbered_mixed :
    ∃ cs : List RawConstant, Pool.read mixedBytes = .ok (mixedPool, [0, 33, 0]) ∧
      mixedBytes.length = 2 + (cs.map RawConstant.size).sum + 3 ∧ mixedPool.slots.size = numberAt cs cs.length := by
  have hread : Pool.read mixedBytes = .ok (mixedPool, [0, 33, 0]) := by rfl
  obtain ⟨count, cs, -, -, hlength, -, -, hsize, -⟩ := constants_numbered hread
  exact ⟨cs, hread, hlength, hsize⟩

/-! ## Numbers past the count -/

section Beyond

variable {es : List PoolEntry} {count n : Nat}

/-- A number past the count holds nothing. It belongs to the pool only if it is the count itself, and then
    as the second number of the constant in front of it. -/
theorem slot_beyond (hfill : Fill (count - 1) es) (hpos : 0 < count) (hn : count ≤ n) {o : Option PoolEntry}
    (h : (Pool.ofEntries es).slots[n]? = some o) :
    n = count ∧ o = none ∧ ∃ e, (Pool.ofEntries es).slots[count - 1]? = some (some e) ∧ e.isWide := by
  rcases (slot_iff es n o).mp h with ⟨hzero, -⟩ | ⟨j, e, he, hstands⟩
  · omega
  obtain ⟨hj, -⟩ := List.getElem?_eq_some_iff.mp he
  have hbegins : nextNumber (es.take j) < count := by
    have hbelow := hfill.begins j hj
    rw [nextNumber_eq]
    omega
  rcases hstands with ⟨hnumber, -⟩ | ⟨hwide, hnumber, ho⟩
  · omega
  · have hfirst : count - 1 = nextNumber (es.take j) := by omega
    refine ⟨by omega, ho, e, ?_, hwide⟩
    rw [hfirst]
    exact (slot_iff es _ _).mpr (.inr ⟨j, e, he, .inl ⟨rfl, rfl⟩⟩)

/-- Behind a long and a double comes a number that holds nothing. -/
theorem slot_behind_wide {e : PoolEntry} (h : (Pool.ofEntries es).slots[n]? = some (some e)) (hwide : e.isWide) :
    (Pool.ofEntries es).slots[n + 1]? = some none := by
  rcases (slot_iff es n _).mp h with ⟨-, hnone⟩ | ⟨j, f, hf, ⟨rfl, he⟩ | ⟨-, -, hnone⟩⟩
  · cases hnone
  · cases he
    exact (slot_iff es _ _).mpr (.inr ⟨j, e, hf, .inr ⟨hwide, rfl, rfl⟩⟩)
  · cases hnone

end Beyond

theorem wide_iff (pool : Pool) (i : UInt16) :
    (pool.entry? i).any PoolEntry.isWide ↔ ∃ e, pool.slots[i.toNat]? = some (some e) ∧ e.isWide := by
  rw [Option.any_eq_true]
  simp only [Pool.entry?, Option.join_eq_some_iff]

/-- Under a number that is not below the declared count there is no text, no class and no integer, and the
    error names it. Nor is there a constant, with one exception: if a long or a double has the last number
    below the count, then the count itself is taken for a number of the pool, and no constant is found
    there where there should be an error. -/
theorem beyond_count {bs mid rest : Bytes} {count : UInt16} {pool : Pool} (hcount : u2 bs = .ok (count, mid))
    (hpos : count ≠ 0) (h : Pool.read bs = .ok (pool, rest)) {i : UInt16} (hi : count ≤ i) :
    pool.text i = .error (.badIndex i) ∧ pool.className i = .error (.badIndex i) ∧
      pool.integer i = .error (.badIndex i) ∧
      pool.constant i =
        if i = count ∧ (pool.entry? (count - 1)).any PoolEntry.isWide then .ok none else .error (.badIndex i) := by
  obtain ⟨declared, cs, rfl, rfl, hfill⟩ := constants_of_read h
  obtain rfl : declared = count := by
    have hread := reads_word declared (cs.flatMap RawConstant.bytes ++ rest)
    rw [hcount] at hread
    cases hread
    rfl
  generalize cs.map RawConstant.entry = es at hfill ⊢
  have hpos' : 0 < declared.toNat := Nat.pos_of_ne_zero fun hzero => hpos (UInt16.toNat_inj.mp hzero)
  have hlast : (declared - 1).toNat = declared.toNat - 1 :=
    UInt16.toNat_sub_of_le _ _ (UInt16.le_iff_toNat_le.mpr hpos')
  have hnothing : Pool.entry? (Pool.ofEntries es) i = none := by
    rw [Pool.entry?]
    cases hslot : (Pool.ofEntries es).slots[i.toNat]? with
    | none => rfl
    | some o =>
      obtain ⟨-, rfl, -⟩ := slot_beyond hfill hpos' hi hslot
      rfl
  refine ⟨by rw [Pool.text, hnothing], by rw [Pool.className, hnothing], by rw [Pool.integer, hnothing], ?_⟩
  have hwide := wide_iff (Pool.ofEntries es) (declared - 1)
  rw [hlast] at hwide
  split
  · next hends =>
    obtain ⟨rfl, hends⟩ := hends
    obtain ⟨e, hslot, hisWide⟩ := hwide.mp hends
    have hsecond := slot_behind_wide hslot hisWide
    rw [Nat.sub_add_cancel hpos'] at hsecond
    rw [Pool.constant, hsecond]
  · next hnot =>
    have hslot : (Pool.ofEntries es).slots[i.toNat]? = none := by
      by_contra hsome
      obtain ⟨o, ho⟩ := Option.ne_none_iff_exists'.mp hsome
      obtain ⟨heq, -, hends⟩ := slot_beyond hfill hpos' hi ho
      exact hnot ⟨UInt16.toNat_inj.mp heq, hwide.mpr hends⟩
    rw [Pool.constant, hslot]

theorem beyond_count_mixed :
    u2 mixedBytes = .ok (5, mixedBytes.drop 2) ∧ Pool.read mixedBytes = .ok (mixedPool, [0, 33, 0]) ∧
      mixedPool.constant 5 = .error (.badIndex 5) := by
  have hread : Pool.read mixedBytes = .ok (mixedPool, [0, 33, 0]) := by rfl
  have hcount : u2 mixedBytes = .ok (5, mixedBytes.drop 2) := by rfl
  obtain ⟨-, -, -, hconstant⟩ := beyond_count hcount (by decide) hread (i := 5) (by decide)
  exact ⟨hcount, hread, hconstant⟩

/-- A class `A` with a field `f` of type `J`. The pool declares the count 7 and ends with a long under 6;
    the field asks for its constant under 7. -/
def overrunClass : Bytes :=
  [0xCA, 0xFE, 0xBA, 0xBE, 0, 0, 0, 52, 0, 7, 1, 0, 1, 65, 7, 0, 1, 1, 0, 1, 102, 1, 0, 1, 74, 1, 0, 13, 67,
    111, 110, 115, 116, 97, 110, 116, 86, 97, 108, 117, 101, 5, 0, 0, 0, 0, 0, 0, 0, 1, 0, 0x21, 0, 2, 0, 0,
    0, 0, 0, 1, 0, 0, 0, 3, 0, 4, 0, 1, 0, 5, 0, 0, 0, 2, 0, 7, 0, 0, 0, 0]

/-- The count is 7, and under 7 no constant is found, where there should be an error. So the class is accepted. -/
theorem count_found_behind_long :
    ∃ pool rest, u2 (overrunClass.drop 8) = .ok (7, overrunClass.drop 10) ∧
      Pool.read (overrunClass.drop 8) = .ok (pool, rest) ∧
      pool.constant 7 = .ok none ∧
      ∃ c, parse overrunClass = .ok c ∧ c.fields.map (·.attributes.constant) = [none] := by
  refine ⟨.ofEntries [.utf8 "A", .classRef 1, .utf8 "f", .utf8 "J", .utf8 "ConstantValue", .long 1],
    overrunClass.drop 50, rfl, rfl, rfl, ?_⟩
  exact ⟨_, rfl, rfl⟩

end ClassAtlas.ClassFile
