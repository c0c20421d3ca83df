import ClassAtlas.ClassFile.Read
import ClassAtlas.Proofs.Reading

/-
  ClassAtlas.Proofs.Extent — a decoder looks at the bytes it takes and at none behind them.

  What an exact decoder makes of a file is settled by the bytes it takes (`Exact`): other
  bytes behind them change nothing, and with fewer of them the file has come to its end too
  early, whatever else is wrong with it. If it refuses the file for any other reason, then
  it has seen the reason, and no more bytes can help.

  Of all decoders only `u1` and `take` touch bytes, and decoders one after the other are
  exact if each of them is (`Exact.bind`). Bodies of attributes are no exception, though
  inside one a reader's depth hangs on all the bytes that are left: a body is cut out by its
  length and read apart, so that seen from outside nothing more is taken (`exact_within`).
-/

namespace ClassAtlas

namespace Decode

/-- Given only the beginning of these bytes, `p` asks for more. -/
def Needs {α : Type} (p : Decode α) (front : Bytes) : Prop :=
  ∀ short, short <+: front → short ≠ front → p short = .error .unexpectedEnd

structure Exact {α : Type} (p : Decode α) : Prop where
  taken : ∀ {bs rest : Bytes} {a : α}, p bs = .ok (a, rest) →
    ∃ front, bs = front ++ rest ∧ Reads p front a ∧ Needs p front
  refused : ∀ {bs : Bytes} {e : DecodeError}, p bs = .error e → e ≠ .unexpectedEnd →
    ∀ more, p (bs ++ more) = .error e

variable {α β : Type} {p : Decode α}

/-! ## One after another -/

theorem bind_of_ok {f : α → Decode β} {bs rest : Bytes} {a : α} (h : p bs = .ok (a, rest)) :
    (p >>= f) bs = f a rest := by
  change (p bs >>= fun r => f r.1 r.2) = _
  rw [h]
  rfl

theorem bind_of_error {f : α → Decode β} {bs : Bytes} {e : DecodeError} (h : p bs = .error e) :
    (p >>= f) bs = .error e := by
  change (p bs >>= fun r => f r.1 r.2) = _
  rw [h]
  rfl

/-- The bytes end among those of `p`, or else among those of what comes after it. -/
theorem Needs.bind {f : α → Decode β} {front back : Bytes} {a : α} (hreads : Reads p front a) (hp : Needs p front)
    (hf : Needs (f a) back) : Needs (p >>= f) (front ++ back) := by
  intro short hshort hne
  by_cases hfront : front <+: short
  · obtain ⟨s, rfl⟩ := hfront
    have hs : s <+: back := (List.prefix_append_right_inj front).mp hshort
    rw [bind_of_ok (hreads s)]
    exact hf s hs fun h => hne (by rw [h])
  · have hp' : short <+: front := by
      rcases List.prefix_or_prefix_of_prefix hshort (List.prefix_append front back) with h | h
      · exact h
      · exact absurd h hfront
    exact bind_of_error (hp short hp' fun h => hfront ⟨[], by rw [h, List.append_nil]⟩)

namespace Exact

theorem bind {f : α → Decode β} (hp : Exact p) (hf : ∀ a, Exact (f a)) : Exact (p >>= f) where
  taken := by
    intro bs rest b h
    cases hfirst : p bs with
    | error e =>
      rw [bind_of_error hfirst] at h
      cases h
    | ok r =>
      obtain ⟨a, mid⟩ := r
      rw [bind_of_ok hfirst] at h
      obtain ⟨front, rfl, hreads, hneeds⟩ := hp.taken hfirst
      obtain ⟨back, rfl, hreads', hneeds'⟩ := (hf a).taken h
      exact ⟨front ++ back, (List.append_assoc ..).symm, hreads.bind hreads', .bind hreads hneeds hneeds'⟩
  refused := by
    intro bs e h hne more
    cases hfirst : p bs with
    | error e' =>
      rw [bind_of_error hfirst] at h
      cases h
      exact bind_of_error (hp.refused hfirst hne more)
    | ok r =>
      obtain ⟨a, mid⟩ := r
      rw [bind_of_ok hfirst] at h
      obtain ⟨front, rfl, hreads, -⟩ := hp.taken hfirst
      rw [List.append_assoc, bind_of_ok (hreads (mid ++ more))]
      exact (hf a).refused h hne more

theorem pure (a : α) : Exact (Pure.pure a : Decode α) where
  taken := by
    intro bs rest b h
    cases h
    exact ⟨[], rfl, .pure a, fun short hshort hne => absurd (List.prefix_nil.mp hshort) hne⟩
  refused h := by cases h

theorem map (hp : Exact p) (f : α → β) : Exact (p >>= fun a => Pure.pure (f a)) := hp.bind fun a => .pure (f a)

end Exact

theorem exact_fail (e : DecodeError) : Exact (fail e : Decode α) where
  taken h := by cases h
  refused h _ _ := h

theorem exact_check (q : Except DecodeError α) : Exact (check q) := by
  cases q with
  | ok a => exact .pure a
  | error e => exact exact_fail e

/-- Whatever `p` does inside, the part is all it is given. -/
theorem exact_within (part : Bytes) (p : Decode α) : Exact (within part p) := exact_check _

/-! ## Bytes -/

theorem exact_u1 : Exact u1 where
  taken := by
    intro bs rest b h
    cases bs with
    | nil => cases h
    | cons c cs =>
      cases h
      refine ⟨[b], rfl, reads_u1 b, fun short hshort hne => ?_⟩
      rcases List.prefix_cons_iff.mp hshort with rfl | ⟨t, rfl, ht⟩
      · rfl
      · rw [List.prefix_nil.mp ht] at hne
        exact absurd rfl hne
  refused := by
    intro bs e h hne
    cases bs with
    | nil => cases h; exact absurd rfl hne
    | cons c cs => cases h

theorem exact_take (n : Nat) : Exact (take n) where
  taken := by
    intro bs rest front h
    unfold take at h
    split at h
    · next hlength =>
      cases h
      refine ⟨bs.take n, (List.take_append_drop n bs).symm, ?_, fun short hshort hne => ?_⟩
      · have hreads := reads_take (bs.take n)
        rwa [hlength] at hreads
      · -- a proper beginning of `n` bytes is shorter than `n`
        have hlt : short.length < n := by
          have hle := hshort.length_le
          have hlen : short.length ≠ (bs.take n).length := fun h => hne (hshort.eq_of_length h)
          omega
        have hcut : ¬(short.take n).length = n := by rw [List.length_take]; omega
        rw [take, if_neg hcut]
    · cases h
  refused := by
    intro bs e h hne
    unfold take at h
    split at h
    · cases h
    · cases h; exact absurd rfl hne

theorem exact_u2 : Exact u2 := (exact_take 2).map _

theorem exact_u4 : Exact u4 := (exact_take 4).map _

theorem exact_u8 : Exact u8 := (exact_take 8).map _

/-! ## Lists -/

theorem exact_times (hp : Exact p) (n : Nat) : Exact (times p n) := by
  induction n with
  | zero => exact .pure []
  | succ n ih => exact hp.bind fun a => ih.map _

theorem exact_counted (hp : Exact p) : Exact (counted p) := exact_u2.bind fun n => exact_times hp n.toNat

end Decode

namespace ClassFile

open Decode

/-! ## Constants -/

theorem exact_ofTag (tag : UInt8) : Exact (PoolEntry.ofTag tag) := by
  unfold PoolEntry.ofTag
  split
  -- a text
  · exact exact_u2.bind fun n => (exact_take n.toNat).map _
  -- numbers
  · exact exact_u4.map _
  · exact exact_u4.map _
  · exact exact_u8.map _
  · exact exact_u8.map _
  -- references to one other constant
  · exact exact_u2.map _
  · exact exact_u2.map _
  -- what no metadata needs
  all_goals first | exact (exact_take _).map _ | exact exact_fail _

theorem exact_entry : Exact PoolEntry.read := exact_u1.bind exact_ofTag

/-- How many numbers are left to be taken depends on the constants read, and so does where the constants end. -/
theorem exact_slots : ∀ n, Exact (PoolEntry.readSlots n)
  | 0 => .pure []
  | 1 => exact_entry.map _
  | n + 2 => by
    refine exact_entry.bind fun e => ?_
    split
    · exact (exact_slots n).map _
    · exact (exact_slots (n + 1)).map _

theorem exact_pool : Exact Pool.read := exact_u2.bind fun count => (exact_slots (count.toNat - 1)).map _

/-! ## Attributes, members and the class -/

variable (pool : Pool)

theorem exact_textAt : Exact (textAt pool) := exact_u2.bind fun i => exact_check (pool.text i)

theorem exact_classNameAt : Exact (classNameAt pool) := exact_u2.bind fun i => exact_check (pool.className i)

theorem exact_attribute : Exact (readAttribute pool) := by
  refine (exact_textAt pool).bind fun name => ?_
  refine exact_u4.bind fun length => ?_
  exact (exact_take length.toNat).bind fun body => exact_within body (readBody pool name)

theorem exact_attributes : Exact (readAttributes pool) := (exact_counted (exact_attribute pool)).map _

theorem exact_member : Exact (readMember pool) := by
  refine exact_u2.bind fun access => ?_
  refine (exact_textAt pool).bind fun name => ?_
  refine (exact_textAt pool).bind fun descriptor => ?_
  exact (exact_attributes pool).map _

theorem exact_magic : Exact readMagic := by
  refine exact_u4.bind fun m => ?_
  split
  · exact .pure ()
  · exact exact_fail .badMagic

theorem exact_rest (version : ClassVersion) : Exact (readRest version pool) := by
  refine exact_u2.bind fun access => ?_
  refine exact_u2.bind fun thisIndex => ?_
  refine exact_u2.bind fun superIndex => ?_
  refine (exact_check _).bind fun name => ?_
  refine (exact_check _).bind fun super => ?_
  refine (exact_counted (exact_classNameAt pool)).bind fun interfaces => ?_
  refine (exact_counted (exact_member pool)).bind fun fields => ?_
  refine (exact_counted (exact_member pool)).bind fun methods => ?_
  exact (exact_attributes pool).map _

theorem exact_read : Exact read := by
  refine exact_magic.bind fun _ => ?_
  refine exact_u2.bind fun minor => ?_
  refine exact_u2.bind fun major => ?_
  exact exact_pool.bind fun pool => exact_rest pool ⟨major, minor⟩

theorem parse_of_read {bs : Bytes} {q : Except DecodeError (ClassFile × Bytes)} (h : read bs = q) :
    parse bs = q.map (·.1) := by
  rw [parse, h]

/-- A class file that is accepted ends where its first `n` bytes do: cut off before that, at any place, it
    is nothing but too short, and with any other bytes behind them the `n` give the same class. A file
    that is refused for anything but its end is refused for the same with any bytes behind it. -/
theorem parse_exact (bs : Bytes) :
    match parse bs with
    | .ok c =>
      ∃ n ≤ bs.length, read bs = .ok (c, bs.drop n) ∧ (∀ k < n, parse (bs.take k) = .error .unexpectedEnd) ∧
        ∀ more, parse (bs.take n ++ more) = .ok c
    | .error e => e ≠ .unexpectedEnd → ∀ more, parse (bs ++ more) = .error e := by
  cases hread : read bs with
  | error e =>
    rw [parse_of_read hread]
    exact fun hne more => parse_of_read (exact_read.refused hread hne more)
  | ok r =>
    obtain ⟨c, rest⟩ := r
    rw [parse_of_read hread]
    obtain ⟨front, rfl, hreads, hneeds⟩ := exact_read.taken hread
    have htake : (front ++ rest).take front.length = front := List.take_left
    refine ⟨front.length, by simp, by rw [List.drop_left], fun k hk => ?_, fun more => ?_⟩
    · have hcut : (front ++ rest).take k = front.take k := List.take_append_of_le_length (Nat.le_of_lt hk)
      have hne : front.take k ≠ front := by
        intro h
        have hlength := congrArg List.length h
        rw [List.length_take] at hlength
        omega
      rw [hcut]
      exact parse_of_read (hneeds (front.take k) (List.take_prefix k front) hne)
    · rw [htake]
      exact parse_of_read (hreads more)

end ClassFile

end ClassAtlas
