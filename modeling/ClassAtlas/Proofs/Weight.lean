import ClassAtlas.Proofs.Layout

/-
  ClassAtlas.Proofs.Weight — how many bytes are taken for a value, whatever it is made of.

  A count in a class file costs two bytes and may promise 65535 values, each of which may
  count further ones. None of them is free. A value of constants is a tag and at least one
  number, a list is a tag and a count besides what is in it, and an annotation is a type, a
  count and a name in front of each of its values. So for every value that comes out, at any
  depth, three bytes have been taken that were taken for no other (`takes_value`): what a body
  gives is no larger than a third of it (`takes_body`), and so it is no deeper
  (`depthOf_le_nodesIn`).

  The sum is made up by a judgment on decoders: `Takes p weight` says that `p` takes at least
  `weight a` bytes for each `a` that it gives.
-/

namespace ClassAtlas

/-! ## Nodes and depth -/

mutual

/-- How many values stand in the value, itself among them. A nested annotation is one besides its parameters. -/
def Value.nodes : Value → Nat
  | .nested a => a.nodes + 1
  | .array items => nodesIn items + 1
  | _ => 1

def AnnotationRecord.nodes : AnnotationRecord → Nat
  | ⟨_, _, params⟩ => nodesOfParams params

def nodesIn : List Value → Nat
  | [] => 0
  | v :: vs => v.nodes + nodesIn vs

def nodesOfParams : List (String × Value) → Nat
  | [] => 0
  | (_, v) :: ps => v.nodes + nodesOfParams ps

end

mutual

/-- How deep values nest in the value. One that has no other in it is one deep. -/
def Value.depth : Value → Nat
  | .nested a => a.depth + 1
  | .array items => depthOf items + 1
  | _ => 1

def AnnotationRecord.depth : AnnotationRecord → Nat
  | ⟨_, _, params⟩ => depthOfParams params

def depthOf : List Value → Nat
  | [] => 0
  | v :: vs => max v.depth (depthOf vs)

def depthOfParams : List (String × Value) → Nat
  | [] => 0
  | (_, v) :: ps => max v.depth (depthOfParams ps)

end

/-- The values given to its parameters. -/
def AnnotationInfo.values (a : AnnotationInfo) : List Value := a.pairs.map (·.2)

/-- The values given to the parameters of the annotations that it lists. -/
def ClassFile.Attribute.values : ClassFile.Attribute → List Value
  | .annotations as => as.flatMap AnnotationInfo.values
  | .parameterAnnotations as => as.flatMap fun a => a.2.values
  | _ => []

theorem nodesOfParams_eq (ps : List (String × Value)) : nodesOfParams ps = nodesIn (ps.map (·.2)) := by
  induction ps with
  | nil => rfl
  | cons p ps ih => rw [nodesOfParams, List.map_cons, nodesIn, ih]

theorem AnnotationInfo.nodes_toRecord (a : AnnotationInfo) : a.toRecord.nodes = nodesIn a.values :=
  nodesOfParams_eq a.pairs

theorem nodesIn_append (vs ws : List Value) : nodesIn (vs ++ ws) = nodesIn vs + nodesIn ws := by
  induction vs with
  | nil => exact (Nat.zero_add _).symm
  | cons v vs ih => rw [List.cons_append, nodesIn, nodesIn, ih, Nat.add_assoc]

mutual

theorem Value.depth_le_nodes : ∀ v : Value, v.depth ≤ v.nodes
  | .nested a => Nat.succ_le_succ (AnnotationRecord.depth_le_nodes a)
  | .array items => Nat.succ_le_succ (depthOf_le_nodesIn items)
  | .byte _ | .char _ | .short _ | .int _ | .long _ | .float _ | .double _ | .boolean _ | .str _ | .enumConstant _ _
  | .classLiteral _ => Nat.le_refl 1

theorem AnnotationRecord.depth_le_nodes : ∀ a : AnnotationRecord, a.depth ≤ a.nodes
  | ⟨_, _, params⟩ => depthOfParams_le_nodes params

theorem depthOf_le_nodesIn : ∀ vs : List Value, depthOf vs ≤ nodesIn vs
  | [] => Nat.le_refl 0
  | v :: vs => by
    have hfirst := Value.depth_le_nodes v
    have hrest := depthOf_le_nodesIn vs
    rw [depthOf, nodesIn]
    omega

theorem depthOfParams_le_nodes : ∀ ps : List (String × Value), depthOfParams ps ≤ nodesOfParams ps
  | [] => Nat.le_refl 0
  | (_, v) :: ps => by
    have hfirst := Value.depth_le_nodes v
    have hrest := depthOfParams_le_nodes ps
    rw [depthOfParams, nodesOfParams]
    omega

end

/-! ## What a decoder takes for what it gives -/

namespace Decode

variable {α β γ : Type} {p : Decode α} {weight : α → Nat}

/-- For each `a` that it gives, `p` takes at least `weight a` bytes. -/
def Takes (p : Decode α) (weight : α → Nat) : Prop :=
  ∀ ⦃bs rest : Bytes⦄ ⦃a : α⦄, p bs = .ok (a, rest) → weight a + rest.length ≤ bs.length

theorem takes_pure {a : α} (h : weight a = 0) : Takes (pure a : Decode α) weight := by
  intro bs rest a' hread
  cases hread
  rw [h, Nat.zero_add]

theorem takes_check (q : Except DecodeError α) : Takes (check q) fun _ => 0 := by
  intro bs rest a h
  obtain ⟨-, rfl⟩ := ok_of_check h
  exact Nat.le_of_eq (Nat.zero_add _)

theorem takes_u1 : Takes u1 fun _ => 1 := by
  intro bs rest b h
  obtain rfl := ok_of_u1 h
  exact Nat.le_of_eq (Nat.add_comm _ _)

theorem takes_u2 : Takes u2 fun _ => 2 := by
  intro bs rest v h
  obtain rfl := ok_of_u2 h
  rw [List.length_append, ClassFile.wordBytes, length_bigEndian]

theorem Takes.mono {weight' : α → Nat} (hp : Takes p weight) (h : ∀ a, weight' a ≤ weight a) : Takes p weight' :=
  fun _ _ a hread => Nat.le_trans (Nat.add_le_add_right (h a) _) (hp hread)

/-- What is taken first is taken besides what comes after it. -/
theorem Takes.bind {f : α → Decode β} {k : Nat} {weight : β → Nat} (hp : Takes p fun _ => k)
    (hf : ∀ a, Takes (f a) weight) :
    Takes (p >>= f) fun b => k + weight b := by
  intro bs rest b h
  obtain ⟨a, mid, hfirst, hthen⟩ := ok_of_bind h
  have hk : k + mid.length ≤ bs.length := hp hfirst
  have hweight : weight b + rest.length ≤ mid.length := hf a hthen
  show k + weight b + rest.length ≤ bs.length
  omega

theorem Takes.map {g : α → β} {weight' : β → Nat} (hp : Takes p weight) (hg : ∀ a, weight' (g a) ≤ weight a) :
    Takes (p >>= fun a => pure (g a)) weight' := by
  intro bs rest b h
  obtain ⟨a, mid, hfirst, hpure⟩ := ok_of_bind h
  cases hpure
  exact (hp.mono hg) hfirst

/-- Values that are paid for one after another are paid for all together. -/
theorem Takes.each {p : γ → Decode α} {held : α → List Value}
    (hp : ∀ x, Takes (p x) fun a => 3 * nodesIn (held a)) (xs : List γ) :
    Takes (each p xs) fun as => 3 * nodesIn (as.flatMap held) := by
  induction xs with
  | nil =>
    intro bs rest as h
    cases h
    exact Nat.le_of_eq (Nat.zero_add _)
  | cons x xs ih =>
    intro bs rest as h
    obtain ⟨a, mid, hfirst, hmore⟩ := ok_of_bind h
    obtain ⟨as', mid', hrest, hpure⟩ := ok_of_bind hmore
    cases hpure
    have hone : 3 * nodesIn (held a) + mid.length ≤ bs.length := hp x hfirst
    have hall : 3 * nodesIn (as'.flatMap held) + rest.length ≤ mid.length := ih hrest
    show 3 * nodesIn ((a :: as').flatMap held) + rest.length ≤ bs.length
    rw [List.flatMap_cons, nodesIn_append]
    omega

/-- Doing a thing so many times is doing it for each of so many. -/
theorem times_eq_each (p : Decode α) (n : Nat) : times p n = each (fun _ => p) (List.replicate n ()) := by
  induction n with
  | zero => rfl
  | succ n ih => rw [times, ih, List.replicate_succ, Decode.each]

theorem Takes.counted {held : α → List Value} (hp : Takes p fun a => 3 * nodesIn (held a)) :
    Takes (counted p) fun as => 2 + 3 * nodesIn (as.flatMap held) := by
  refine takes_u2.bind fun n => ?_
  rw [times_eq_each]
  exact Takes.each (fun _ => hp) _

end Decode

namespace ClassFile

open Decode

/-! ## Values and bodies -/

variable {pool : Pool} {visible : Bool}

/-- A word that numbers a constant is two bytes, whatever is found under it. -/
theorem takes_word {α : Type} (q : UInt16 → Except DecodeError α) : Takes (u2 >>= fun i => check (q i)) fun _ => 2 :=
  takes_u2.bind fun i => takes_check (q i)

/-- A value that is made of a constant. With its tag it takes three bytes. -/
theorem length_constant {α : Type} {p : Decode α} {make : α → Value} {bs rest : Bytes} {v : Value}
    (hp : Takes p fun _ => 2) (hmake : ∀ a, (make a).nodes = 1)
    (h : (p >>= fun a => pure (make a)) bs = .ok (v, rest)) :
    3 * v.nodes + rest.length ≤ bs.length + 1 := by
  obtain ⟨a, mid, hfirst, hpure⟩ := ok_of_bind h
  cases hpure
  have htwo : 2 + rest.length ≤ bs.length := hp hfirst
  rw [hmake]
  omega

theorem length_number {tag : UInt8} {bs rest : Bytes} {v : Value}
    (h : (constantAt pool >>= fun c => check (numberValue tag c)) bs = .ok (v, rest)) :
    3 * v.nodes + rest.length ≤ bs.length + 1 := by
  obtain ⟨c, mid, hconstant, hmade⟩ := ok_of_bind h
  obtain ⟨hnumber, rfl⟩ := ok_of_check hmade
  have htwo : 2 + mid.length ≤ bs.length := takes_word pool.constant hconstant
  have hnodes : v.nodes = 1 := by
    unfold numberValue at hnumber
    split at hnumber <;> cases hnumber <;> rfl
  rw [hnodes]
  omega

theorem takes_raw {value : Decode Value} (h : Takes value fun v => 3 * v.nodes) :
    Takes (readRaw pool visible value) fun a => 4 + 3 * nodesIn a.values := by
  have hpair : Takes (readPair pool value) fun p => 3 * nodesIn [p.2] := by
    intro bs rest p hread
    obtain ⟨name, mid, hname, hread⟩ := ok_of_bind hread
    obtain ⟨v, mid', hvalue, hpure⟩ := ok_of_bind hread
    cases hpure
    have htwo : 2 + mid.length ≤ bs.length := takes_word pool.text hname
    have hpaid : 3 * v.nodes + rest.length ≤ mid.length := h hvalue
    show 3 * (v.nodes + 0) + rest.length ≤ bs.length
    omega
  intro bs rest a hread
  obtain ⟨descriptor, mid, htype, hread⟩ := ok_of_bind hread
  obtain ⟨pairs, mid', hpairs, hpure⟩ := ok_of_bind hread
  cases hpure
  have htwo : 2 + mid.length ≤ bs.length := takes_word pool.text htype
  have hpaid : 2 + 3 * nodesIn (pairs.flatMap fun p => [p.2]) + rest.length ≤ mid.length := hpair.counted hpairs
  show 4 + 3 * nodesIn (pairs.map fun p => p.2) + rest.length ≤ bs.length
  rw [List.map_eq_flatMap]
  omega

/-- For every value in a value, itself among them, three bytes are taken. -/
theorem takes_value (depth : Nat) : Takes (readValue pool visible depth) fun v => 3 * v.nodes := by
  induction depth with
  | zero =>
    intro bs rest v h
    cases h
  | succ depth ih =>
    intro bs rest v h
    obtain ⟨tag, mid, htag, harm⟩ := ok_of_bind (p := u1) h
    have hone : 1 + mid.length ≤ bs.length := takes_u1 htag
    suffices hbehind : 3 * v.nodes + rest.length ≤ mid.length + 1 by
      show 3 * v.nodes + rest.length ≤ bs.length
      omega
    generalize Char.ofNat tag.toNat = letter at harm
    split at harm
    · exact length_constant (takes_word pool.integer) (fun _ => rfl) harm
    · exact length_constant (takes_word pool.integer) (fun _ => rfl) harm
    · exact length_constant (takes_word pool.integer) (fun _ => rfl) harm
    · exact length_constant (takes_word pool.integer) (fun _ => rfl) harm
    · exact length_constant (takes_word pool.integer) (fun _ => rfl) harm
    · exact length_number harm
    · exact length_number harm
    · exact length_number harm
    · exact length_constant (takes_word pool.text) (fun _ => rfl) harm
    · obtain ⟨typeName, mid', htype, hname⟩ := ok_of_bind harm
      have htwo : 2 + mid'.length ≤ mid.length := takes_word pool.text htype
      have hlast := length_constant (takes_word pool.text) (fun _ => rfl) hname
      omega
    · exact length_constant (takes_word pool.text) (fun _ => rfl) harm
    · obtain ⟨raw, mid', hraw, hpure⟩ := ok_of_bind harm
      cases hpure
      have hpaid : 4 + 3 * nodesIn raw.values + rest.length ≤ mid.length := takes_raw ih hraw
      rw [Value.nodes, AnnotationInfo.nodes_toRecord]
      omega
    · obtain ⟨items, mid', hitems, hpure⟩ := ok_of_bind harm
      cases hpure
      have hpaid : 2 + 3 * nodesIn (items.flatMap fun v => [v]) + rest.length ≤ mid.length := Takes.counted ih hitems
      rw [List.flatMap_singleton'] at hpaid
      rw [Value.nodes]
      omega
    · cases harm

theorem takes_annotated : Takes (readAnnotated pool visible) fun a => 4 + 3 * nodesIn a.values :=
  fun bs _ _ h => takes_raw (takes_value bs.length) h

theorem takes_notes :
    Takes (counted (readAnnotated pool visible)) fun as =>
      3 * nodesIn (as.flatMap AnnotationInfo.values) := by
  have hnote : Takes (readAnnotated pool visible) fun a => 3 * nodesIn a.values :=
    takes_annotated.mono fun a => Nat.le_add_left _ _
  exact hnote.counted.mono fun as => Nat.le_add_left _ _

theorem takes_parameters :
    Takes (readParameters pool visible) fun as => 3 * nodesIn (as.flatMap fun a => a.2.values) := by
  have hone (i : Nat) :
      Takes (counted (readAnnotated pool visible) >>= fun as => pure (as.map fun a => (UInt8.ofNat i, a)))
      fun as => 3 * nodesIn (as.flatMap fun a => a.2.values) := by
    refine takes_notes.map fun as => ?_
    rw [List.flatMap_map]
  intro bs rest as h
  obtain ⟨n, mid, hcount, h⟩ := ok_of_bind h
  obtain ⟨ass, mid', heach, hpure⟩ := ok_of_bind h
  cases hpure
  have hbyte : 1 + mid.length ≤ bs.length := takes_u1 hcount
  have hpaid : 3 * nodesIn (ass.flatMap fun as => as.flatMap fun a => a.2.values) + rest.length ≤ mid.length :=
    Takes.each hone _ heach
  have hflat : ass.flatten.flatMap (fun a => a.2.values) = ass.flatMap fun as => as.flatMap fun a => a.2.values := by
    rw [List.flatten_eq_flatMap, List.flatMap_assoc]
    rfl
  show 3 * nodesIn (ass.flatten.flatMap fun a => a.2.values) + rest.length ≤ bs.length
  rw [hflat]
  omega

/-- Of what is read of a body, a third at most is values. -/
theorem takes_body (name : String) : Takes (readBody pool name) fun said => 3 * nodesIn said.values := by
  unfold readBody
  split
  · exact (takes_word pool.text).map fun _ => Nat.zero_le _
  · exact (takes_word pool.constant).map fun _ => Nat.zero_le _
  · have hname : Takes (classNameAt pool) fun _ => 3 * nodesIn [] :=
      (takes_word pool.className).mono fun _ => Nat.zero_le _
    exact hname.counted.map fun _ => Nat.zero_le _
  · exact takes_notes.map fun _ => Nat.le_refl _
  · exact takes_notes.map fun _ => Nat.le_refl _
  · exact takes_parameters.map fun _ => Nat.le_refl _
  · exact takes_parameters.map fun _ => Nat.le_refl _
  · exact takes_pure rfl

end ClassFile

end ClassAtlas
