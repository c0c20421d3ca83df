import ClassAtlas.Proofs.Weight

/-
  ClassAtlas.Proofs.Progress — values read in place, with nothing but the bytes to end it.

  `readValue` takes bytes off the front of a list, down to a depth that it is given. Here values
  are read where they are, from a position that moves on over the same bytes, and one inside of
  another for as long as tags and counts say so. Much could go wrong with that. Numbers are put
  together from parts that are cut out, so an index or a part could lie outside
  (`Stop.outside`); the position could get past the end; and there could be no end to it. So
  where reading would have to go deeper than it may, there is no answer here, and reading comes
  to an end only if it has one answer at every depth that is great enough (`Comes`).

  Nothing of it happens, from whatever position, over whatever bytes. Before a value is read
  inside of another, a tag and a count have been, and those are three bytes. So nesting ends
  within a third of what is left, and at any greater depth reading in place does what reading
  off the front does (`mirrors_value`). That one answer is the answer at any other such depth
  (`below_value`), and how far the reader has moved on is known from the bytes taken off the
  front (`Mirrors.advances`): three for each node, so that a body gives no more nodes than a
  third of its bytes, however many its counts promise (`three_bytes_a_node`).
-/

namespace ClassAtlas.ClassFile

/-- Bytes that stay where they are, and how many of them have been read. -/
structure Reader where
  data : Bytes
  position : Nat

/-- Why reading breaks off. -/
inductive Stop where
  | refused (e : DecodeError)
  /-- An index outside of a list, or a part that does not lie in it. -/
  | outside

namespace Reader

/-- What is done with a reader. The reader stays where reading broke off; what does not get to an end has
    no answer at all. -/
abbrev Run (α : Type) := ExceptT Stop (StateT Reader Option) α

/-! ## Reading in place -/

def refuse {α : Type} (e : DecodeError) : Run α := throw (.refused e)

def found {α : Type} : Except DecodeError α → Run α
  | .ok a => pure a
  | .error e => refuse e

def byteAt (bs : Bytes) (i : Nat) : Run UInt8 :=
  match bs[i]? with
  | some b => pure b
  | none => throw .outside

def part (bs : Bytes) (first last : Nat) : Run Bytes :=
  if first ≤ last ∧ last ≤ bs.length then pure ((bs.drop first).take (last - first)) else throw .outside

def u1 : Run UInt8 := do
  let r ← get
  match r.data[r.position]? with
  | none => refuse .unexpectedEnd
  | some b =>
    set { r with position := r.position + 1 }
    return b

/-- The next `n` bytes. A sum that no machine word holds is past the end of any bytes. -/
def slice (n : Nat) : Run Bytes := do
  let r ← get
  let last := r.position + n
  if last > r.data.length then
    refuse .unexpectedEnd
  else
    let bs ← part r.data r.position last
    set { r with position := last }
    return bs

def u2 : Run UInt16 := do
  let bs ← slice 2
  let high ← byteAt bs 0
  let low ← byteAt bs 1
  return UInt16.ofNat (Decode.bigEndian [high, low])

def textAt (pool : Pool) : Run String := do found (pool.text (← u2))

def classNameAt (pool : Pool) : Run String := do found (pool.className (← u2))

def integerAt (pool : Pool) : Run Int32 := do found (pool.integer (← u2))

def constantAt (pool : Pool) : Run (Option Constant) := do found (pool.constant (← u2))

/-- As many as the next two bytes say. -/
def counted {α : Type} (run : Run α) : Run (List α) := do
  let n ← u2
  (List.replicate n.toNat ()).mapM fun _ => run

def pair (pool : Pool) (value : Run Value) : Run (String × Value) := do
  let name ← textAt pool
  let v ← value
  return (name, v)

def raw (pool : Pool) (visible : Bool) (value : Run Value) : Run AnnotationInfo := do
  let descriptor ← textAt pool
  let pairs ← counted (pair pool value)
  return ⟨descriptor, visible, pairs⟩

/-- A value with its tag, if values nest no deeper in it than that. -/
def value (pool : Pool) (visible : Bool) : Nat → Run Value
  | 0 => fun _ => none
  | depth + 1 => do
    let tag ← u1
    match Char.ofNat tag.toNat with
    | 'B' => do return .byte (← integerAt pool).toInt8
    | 'C' => do return .char (charOfCode (← integerAt pool))
    | 'S' => do return .short (← integerAt pool).toInt16
    | 'Z' => do return .boolean ((← integerAt pool) != 0)
    | 'I' => do return .int (← integerAt pool)
    | 'J' | 'F' | 'D' => do
      let c ← constantAt pool
      found (numberValue tag c)
    | 's' => do return .str (← textAt pool)
    | 'c' => do return .classLiteral (← textAt pool)
    | 'e' => do
      let typeName ← textAt pool
      let constant ← textAt pool
      return .enumConstant (Name.ofDescriptor typeName) constant
    | '@' => do
      let note ← raw pool visible (value pool visible depth)
      return .nested note.toRecord
    | '[' => do
      let items ← counted (value pool visible depth)
      return .array items
    | _ => refuse (.badElementTag tag)

def annotated (pool : Pool) (visible : Bool) (depth : Nat) : Run AnnotationInfo :=
  raw pool visible (value pool visible depth)

def parameters (pool : Pool) (visible : Bool) (depth : Nat) : Run (List (UInt8 × AnnotationInfo)) := do
  let n ← u1
  let perParameter ← (List.range n.toNat).mapM fun i => do
    let as ← counted (annotated pool visible depth)
    return as.map fun a => (UInt8.ofNat i, a)
  return perParameter.flatten

/-- What an attribute of that name says in its body. -/
def body (pool : Pool) (name : String) (depth : Nat) : Run Attribute :=
  match name with
  | "Signature" => do return .signature (← textAt pool)
  | "ConstantValue" => do return .constant (← constantAt pool)
  | "Exceptions" => do return .exceptions (← counted (classNameAt pool))
  | "RuntimeVisibleAnnotations" => do return .annotations (← counted (annotated pool true depth))
  | "RuntimeInvisibleAnnotations" => do return .annotations (← counted (annotated pool false depth))
  | "RuntimeVisibleParameterAnnotations" => do return .parameterAnnotations (← parameters pool true depth)
  | "RuntimeInvisibleParameterAnnotations" => do return .parameterAnnotations (← parameters pool false depth)
  | _ => return .skipped

/-- What reading comes to from `r` on where nothing bounds its depth: what it comes to at every depth that
    is great enough. -/
def Comes {α : Type} (r : Reader) (run : Nat → Run α) (answer : Except Stop α) (r' : Reader) : Prop :=
  ∃ enough, ∀ depth, enough ≤ depth → run depth r = some (answer, r')

/-! ## A reader moves on -/

def start (data : Bytes) : Reader := ⟨data, 0⟩

def left (r : Reader) : Bytes := r.data.drop r.position

/-- `r` may have moved on to be `r'`: over the same bytes, and not past the last of them. -/
structure Onward (r r' : Reader) : Prop where
  data_eq : r'.data = r.data
  forward : r.position ≤ r'.position
  inside : r'.position = r.position ∨ r'.position ≤ r.data.length

variable {α β γ : Type} {r r' r'' : Reader}

theorem Onward.refl (r : Reader) : r.Onward r := ⟨rfl, Nat.le_refl _, .inl rfl⟩

theorem Onward.trans (h : r.Onward r') (h' : r'.Onward r'') : r.Onward r'' where
  data_eq := h'.data_eq.trans h.data_eq
  forward := Nat.le_trans h.forward h'.forward
  inside := by
    have hlength := congrArg List.length h.data_eq
    have hfirst := h.inside
    have hthen := h'.inside
    omega

theorem length_left (r : Reader) : r.left.length = r.data.length - r.position := List.length_drop

theorem Onward.length_left_le (h : r.Onward r') : r'.left.length ≤ r.left.length := by
  have hforward := h.forward
  rw [length_left, length_left, h.data_eq]
  omega

/-! ## One run after another -/

theorem bind_get (f : Reader → Run α) (r : Reader) : ((get : Run Reader) >>= f) r = f r r := rfl

theorem bind_of_none {run : Run α} {f : α → Run β} (h : run r = none) : (run >>= f) r = none := by
  change (run r >>= _) = _
  rw [h]
  rfl

theorem bind_of_ok {run : Run α} {f : α → Run β} {a : α} (h : run r = some (.ok a, r')) : (run >>= f) r = f a r' := by
  change (run r >>= _) = _
  rw [h]
  rfl

theorem bind_of_error {run : Run α} {f : α → Run β} {s : Stop} (h : run r = some (.error s, r')) :
    (run >>= f) r = some (.error s, r') := by
  change (run r >>= _) = _
  rw [h]
  rfl

/-! ## An answer stays the answer -/

/-- Where `run` has an answer, it is that of `run'`. -/
def Below (run run' : Run α) : Prop :=
  ∀ ⦃r : Reader⦄ ⦃x : Except Stop α × Reader⦄, run r = some x → run' r = some x

theorem Below.refl (run : Run α) : Below run run := fun _ _ h => h

theorem Below.bind {run run' : Run α} {f f' : α → Run β} (hrun : Below run run') (hf : ∀ a, Below (f a) (f' a)) :
    Below (run >>= f) (run' >>= f') := by
  intro r x hx
  cases hfirst : run r with
  | none =>
    rw [bind_of_none hfirst] at hx
    cases hx
  | some answer =>
    obtain ⟨a | s, r'⟩ := answer
    · rw [bind_of_error hfirst] at hx
      rw [bind_of_error (hrun hfirst), hx]
    · rw [bind_of_ok hfirst] at hx
      rw [bind_of_ok (hrun hfirst)]
      exact hf _ hx

theorem Below.map {run run' : Run α} (hrun : Below run run') (f : α → β) :
    Below (run >>= fun a => pure (f a)) (run' >>= fun a => pure (f a)) :=
  hrun.bind fun a => .refl (pure (f a))

theorem below_each {run run' : γ → Run α} (h : ∀ x, Below (run x) (run' x)) (xs : List γ) :
    Below (xs.mapM run) (xs.mapM run') := by
  induction xs with
  | nil => exact .refl _
  | cons x xs ih =>
    rw [List.mapM_cons, List.mapM_cons]
    exact (h x).bind fun a => ih.map _

theorem Below.counted {run run' : Run α} (h : Below run run') : Below (counted run) (counted run') :=
  (Below.refl u2).bind fun _ => below_each (fun _ => h) _

variable {pool : Pool} {visible : Bool}

theorem Below.raw {value value' : Run Value} (h : Below value value') :
    Below (raw pool visible value) (raw pool visible value') := by
  have hpair : Below (pair pool value) (pair pool value') := (Below.refl (textAt pool)).bind fun _ => h.map _
  exact (Below.refl (textAt pool)).bind fun _ => hpair.counted.map _

/-- Of a value only what is read inside of it knows the depth, which is one annotation or the items of a list. -/
theorem below_value (depth : Nat) : Below (value pool visible depth) (value pool visible (depth + 1)) := by
  induction depth with
  | zero =>
    intro r x h
    cases h
  | succ depth ih =>
    rw [value, value]
    refine (Below.refl u1).bind fun tag => ?_
    split
    · exact .refl _
    · exact .refl _
    · exact .refl _
    · exact .refl _
    · exact .refl _
    · exact .refl _
    · exact .refl _
    · exact .refl _
    · exact .refl _
    · exact .refl _
    · exact .refl _
    · exact ih.raw.map _
    · exact ih.counted.map _
    · exact .refl _

theorem below_annotated (depth : Nat) : Below (annotated pool visible depth) (annotated pool visible (depth + 1)) :=
  (below_value depth).raw

theorem below_parameters (depth : Nat) :
    Below (parameters pool visible depth) (parameters pool visible (depth + 1)) := by
  refine (Below.refl u1).bind fun n => ?_
  refine (below_each (fun i => ?_) _).map _
  exact (below_annotated depth).counted.map _

theorem below_body (name : String) (depth : Nat) : Below (body pool name depth) (body pool name (depth + 1)) := by
  unfold body
  split
  · exact .refl _
  · exact .refl _
  · exact .refl _
  · exact (below_annotated depth).counted.map _
  · exact (below_annotated depth).counted.map _
  · exact (below_parameters depth).map _
  · exact (below_parameters depth).map _
  · exact .refl _

/-- Where a greater depth changes no answer, an answer at one depth is what reading comes to. -/
theorem comes_of_below {run : Nat → Run α} (h : ∀ depth, Below (run depth) (run (depth + 1))) {depth : Nat}
    {answer : Except Stop α} (hends : run depth r = some (answer, r')) : r.Comes run answer r' := by
  refine ⟨depth, fun deeper hle => ?_⟩
  induction deeper, hle using Nat.le_induction with
  | base => exact hends
  | succ deeper _ ih => exact h deeper ih

/-! ## In place as off the front -/

/-- In place the answer is the same as off the front, and the reader stands in front of the rest. -/
inductive Same : Except DecodeError (α × Bytes) → Except Stop α → Reader → Prop
  | ok (a : α) (r : Reader) : Same (.ok (a, r.left)) (.ok a) r
  | error (e : DecodeError) (r : Reader) : Same (.error e) (.error (.refused e)) r

theorem Same.eq_ok {a : α} {rest : Bytes} {answer : Except Stop α} (h : Same (.ok (a, rest)) answer r) :
    answer = .ok a ∧ r.left = rest := by
  generalize hq : (.ok (a, rest) : Except DecodeError (α × Bytes)) = q at h
  cases h <;> cases hq
  exact ⟨rfl, rfl⟩

/-- From `r` on the run comes to an end, moving on, with the answer that the decoder has for what is left. -/
def Mirrors (r : Reader) (run : Run α) (p : Decode α) : Prop :=
  ∃ answer r', run r = some (answer, r') ∧ r.Onward r' ∧ Same (p r.left) answer r'

theorem mirrors_pure (r : Reader) (a : α) : r.Mirrors (pure a) (pure a) := ⟨.ok a, r, rfl, .refl r, .ok a r⟩

theorem mirrors_refuse (r : Reader) (e : DecodeError) : r.Mirrors (refuse e : Run α) (Decode.fail e) :=
  ⟨.error (.refused e), r, rfl, .refl r, .error e r⟩

theorem mirrors_found (r : Reader) (q : Except DecodeError α) : r.Mirrors (found q) (Decode.check q) := by
  cases q with
  | ok a => exact mirrors_pure r a
  | error e => exact mirrors_refuse r e

theorem Mirrors.bind {run : Run α} {p : Decode α} {f : α → Run β} {g : α → Decode β} (hrun : r.Mirrors run p)
    (hf : ∀ a r', r.Onward r' → p r.left = .ok (a, r'.left) → r'.Mirrors (f a) (g a)) :
    r.Mirrors (run >>= f) (p >>= g) := by
  obtain ⟨answer, r', hends, honward, hsame⟩ := hrun
  generalize hp : p r.left = q at hsame
  cases hsame with
  | ok a =>
    obtain ⟨answer, r'', hends', honward', hsame'⟩ := hf a r' honward hp
    refine ⟨answer, r'', ?_, honward.trans honward', ?_⟩
    · rw [bind_of_ok hends, hends']
    · rwa [Decode.bind_of_ok hp]
  | error e =>
    refine ⟨.error (.refused e), r', bind_of_error hends, honward, ?_⟩
    rw [Decode.bind_of_error hp]
    exact .error e r'

theorem Mirrors.map {run : Run α} {p : Decode α} (hrun : r.Mirrors run p) (f : α → β) :
    r.Mirrors (run >>= fun a => pure (f a)) (p >>= fun a => pure (f a)) :=
  hrun.bind fun a r' _ _ => mirrors_pure r' (f a)

/-- A loop, wherever in it the reader has got to. -/
theorem mirrors_each {run : γ → Run α} {p : γ → Decode α} (h : ∀ x r', r.Onward r' → r'.Mirrors (run x) (p x))
    (xs : List γ) :
    r.Mirrors (xs.mapM run) (Decode.each p xs) := by
  induction xs generalizing r with
  | nil => exact mirrors_pure r []
  | cons x xs ih =>
    rw [List.mapM_cons]
    refine (h x r (.refl r)).bind fun a r' honward _ => ?_
    exact (ih fun y r'' honward' => h y r'' (honward.trans honward')).map _

theorem mirrors_times {run : Run α} {p : Decode α} (h : ∀ r', r.Onward r' → r'.Mirrors run p) (n : Nat) :
    r.Mirrors ((List.replicate n ()).mapM fun _ => run) (Decode.times p n) := by
  rw [Decode.times_eq_each]
  exact mirrors_each (fun _ => h) _

theorem mirrors_u1 (r : Reader) : r.Mirrors u1 Decode.u1 := by
  cases hbyte : r.data[r.position]? with
  | none =>
    have hpast : r.data.length ≤ r.position := List.getElem?_eq_none_iff.mp hbyte
    refine ⟨.error (.refused .unexpectedEnd), r, ?_, .refl r, ?_⟩
    · rw [u1, bind_get, hbyte]
      rfl
    · rw [left, List.drop_eq_nil_of_le hpast]
      exact .error _ r
  | some b =>
    obtain ⟨hlt, rfl⟩ := List.getElem?_eq_some_iff.mp hbyte
    refine ⟨.ok r.data[r.position], ⟨r.data, r.position + 1⟩, ?_, ⟨rfl, Nat.le_add_right _ _, .inr hlt⟩, ?_⟩
    · rw [u1, bind_get, hbyte]
      rfl
    · rw [left, List.drop_eq_getElem_cons hlt]
      exact .ok _ ⟨r.data, r.position + 1⟩

/-- A part is cut out of the bytes only where it lies in them. -/
theorem mirrors_slice {n : Nat} (hn : 0 < n) (r : Reader) : r.Mirrors (slice n) (Decode.take n) := by
  have hlength := r.length_left
  by_cases hfits : r.position + n ≤ r.data.length
  · have hpart : part r.data r.position (r.position + n) = pure (r.left.take n) := by
      rw [part, if_pos ⟨Nat.le_add_right _ _, hfits⟩, Nat.add_sub_cancel_left, left]
    have htaken : (r.left.take n).length = n := by rw [List.length_take]; omega
    have hrest : r.left.drop n = left ⟨r.data, r.position + n⟩ := List.drop_drop
    refine ⟨.ok (r.left.take n), ⟨r.data, r.position + n⟩, ?_, ⟨rfl, Nat.le_add_right _ _, .inr hfits⟩, ?_⟩
    · rw [slice, bind_get, if_neg (Nat.not_lt.mpr hfits), hpart]
      rfl
    · rw [Decode.take, if_pos htaken, hrest]
      exact .ok _ _
  · have hshort : ¬(r.left.take n).length = n := by rw [List.length_take]; omega
    refine ⟨.error (.refused .unexpectedEnd), r, ?_, .refl r, ?_⟩
    · rw [slice, bind_get, if_pos (Nat.lt_of_not_le hfits)]
      rfl
    · rw [Decode.take, if_neg hshort]
      exact .error _ r

/-- The part that is cut out has two bytes, so neither index is outside of it. -/
theorem mirrors_u2 (r : Reader) : r.Mirrors u2 Decode.u2 := by
  refine (mirrors_slice Nat.two_pos r).bind fun bs r' _ htaken => ?_
  obtain ⟨-, hlength⟩ := Decode.ok_of_take htaken
  obtain ⟨high, low, rfl⟩ := List.length_eq_two.mp hlength
  exact mirrors_pure r' (UInt16.ofNat (Decode.bigEndian [high, low]))

theorem mirrors_word (q : UInt16 → Except DecodeError α) (r : Reader) :
    r.Mirrors (u2 >>= fun i => found (q i)) (Decode.u2 >>= fun i => Decode.check (q i)) :=
  (mirrors_u2 r).bind fun i r' _ _ => mirrors_found r' (q i)

theorem mirrors_counted {run : Run α} {p : Decode α}
    (h : ∀ r', r.Onward r' → r'.left.length + 2 ≤ r.left.length → r'.Mirrors run p) :
    r.Mirrors (counted run) (Decode.counted p) := by
  refine (mirrors_u2 r).bind fun n r₁ honward hcount => ?_
  have htwo : 2 + r₁.left.length ≤ r.left.length := Decode.takes_u2 hcount
  refine mirrors_times (fun r₂ honward' => ?_) n.toNat
  have hle := honward'.length_left_le
  exact h r₂ (honward.trans honward') (by omega)

theorem mirrors_raw {run : Run Value} {p : Decode Value}
    (h : ∀ r', r.Onward r' → r'.left.length + 4 ≤ r.left.length → r'.Mirrors run p) :
    r.Mirrors (raw pool visible run) (readRaw pool visible p) := by
  refine (mirrors_word pool.text r).bind fun descriptor r₁ honward htype => ?_
  have htwo : 2 + r₁.left.length ≤ r.left.length := takes_word pool.text htype
  have hpairs : r₁.Mirrors (counted (pair pool run)) (Decode.counted (readPair pool p)) := by
    refine mirrors_counted fun r₂ honward' hpaid => ?_
    refine (mirrors_word pool.text r₂).bind fun name r₃ honward'' _ => ?_
    have hle := honward''.length_left_le
    exact (h r₃ (honward.trans (honward'.trans honward'')) (by omega)).map _
  exact hpairs.map _

/-- Between one depth and the next three bytes are read, so neither end reaches the depth where there is no answer. -/
theorem mirrors_value {depth depth' : Nat} (h : r.left.length < 3 * depth) (h' : r.left.length < 3 * depth') :
    r.Mirrors (value pool visible depth) (readValue pool visible depth') := by
  induction depth generalizing depth' r with
  | zero => omega
  | succ depth ih =>
    obtain _ | depth' := depth'
    · omega
    rw [value]
    refine (mirrors_u1 r).bind fun tag r₁ honward htag => ?_
    have hone : 1 + r₁.left.length ≤ r.left.length := Decode.takes_u1 htag
    generalize Char.ofNat tag.toNat = letter
    split
    · exact (mirrors_word pool.integer r₁).map _
    · exact (mirrors_word pool.integer r₁).map _
    · exact (mirrors_word pool.integer r₁).map _
    · exact (mirrors_word pool.integer r₁).map _
    · exact (mirrors_word pool.integer r₁).map _
    · exact (mirrors_word pool.constant r₁).bind fun c r₂ _ _ => mirrors_found r₂ _
    · exact (mirrors_word pool.constant r₁).bind fun c r₂ _ _ => mirrors_found r₂ _
    · exact (mirrors_word pool.constant r₁).bind fun c r₂ _ _ => mirrors_found r₂ _
    · exact (mirrors_word pool.text r₁).map _
    · exact (mirrors_word pool.text r₁).map _
    · exact (mirrors_word pool.text r₁).bind fun typeName r₂ _ _ => (mirrors_word pool.text r₂).map _
    · exact (mirrors_raw fun r₂ _ hpaid => ih (by omega) (by omega)).map _
    · exact (mirrors_counted fun r₂ _ hpaid => ih (by omega) (by omega)).map _
    · -- no tag of a value, and none off the front either
      split
      all_goals first | contradiction | exact mirrors_refuse r₁ _

theorem mirrors_annotated {depth : Nat} (h : r.left.length < 3 * depth) :
    r.Mirrors (annotated pool visible depth) (readAnnotated pool visible) := by
  have hdeep : r.Mirrors (annotated pool visible depth) (readRaw pool visible (readValue pool visible r.left.length)) :=
    mirrors_raw fun r' _ hpaid => mirrors_value (by omega) (by omega)
  exact hdeep

theorem mirrors_notes {depth : Nat} (h : r.left.length < 3 * depth) :
    r.Mirrors (counted (annotated pool visible depth)) (Decode.counted (readAnnotated pool visible)) :=
  mirrors_counted fun _ _ hpaid => mirrors_annotated (by omega)

theorem mirrors_parameters {depth : Nat} (h : r.left.length < 3 * depth) :
    r.Mirrors (parameters pool visible depth) (readParameters pool visible) := by
  refine (mirrors_u1 r).bind fun n r₁ honward _ => ?_
  refine (mirrors_each (fun i r₂ honward' => ?_) _).map _
  have hle := (honward.trans honward').length_left_le
  exact (mirrors_notes (by omega)).map _

theorem mirrors_body (name : String) {depth : Nat} (h : r.left.length < 3 * depth) :
    r.Mirrors (body pool name depth) (readBody pool name) := by
  unfold body
  split
  · exact (mirrors_word pool.text r).map _
  · exact (mirrors_word pool.constant r).map _
  · exact (mirrors_counted fun r' _ _ => mirrors_word pool.className r').map _
  · exact (mirrors_notes h).map _
  · exact (mirrors_notes h).map _
  · exact (mirrors_parameters h).map _
  · exact (mirrors_parameters h).map _
  · unfold readBody
    split
    all_goals first | contradiction | exact mirrors_pure r _

/-! ## Three bytes a node -/

/-- From `r` reading comes to an end, moving on, with no index outside, and by `weight a` bytes at least
    for each `a` it gives. -/
def Advances (r : Reader) (run : Nat → Run α) (weight : α → Nat) : Prop :=
  ∃ answer r', r.Comes run answer r' ∧ r.Onward r' ∧ answer ≠ .error .outside ∧
    ∀ a, answer = .ok a → r.position + weight a ≤ r'.position

theorem Mirrors.advances {run : Nat → Run α} {p : Decode α} {weight : α → Nat} {depth : Nat}
    (h : r.Mirrors (run depth) p) (hbelow : ∀ depth, Below (run depth) (run (depth + 1)))
    (hp : Decode.Takes p weight) : r.Advances run weight := by
  obtain ⟨answer, r', hends, honward, hsame⟩ := h
  refine ⟨answer, r', comes_of_below hbelow hends, honward, ?_, ?_⟩
  · generalize p r.left = q at hsame
    cases hsame <;> nofun
  · rintro a rfl
    generalize hread : p r.left = q at hsame
    cases hsame
    have hpaid := hp hread
    have hforward := honward.forward
    have hinside := honward.inside
    rw [length_left, length_left, honward.data_eq] at hpaid
    omega

variable (pool)

/-- From any position over any bytes, reading a value or an annotation in place comes to an end, and that
    with what is read off the front, at any depth beyond a third of the bytes left. It moves on by at
    least three bytes for each node that it gives, never past the last byte, and no index is outside. So
    does reading a body, and the values in it have no more nodes than a third of its bytes, and are no
    deeper. -/
theorem three_bytes_a_node :
    (∀ (visible : Bool) (r : Reader),
        r.Advances (value pool visible) (fun v => 3 * v.nodes) ∧
          r.Advances (annotated pool visible) (fun a => 4 + 3 * nodesIn a.values) ∧
          ∀ depth, r.left.length < 3 * depth →
            r.Mirrors (value pool visible depth) (readValue pool visible depth) ∧
              r.Mirrors (annotated pool visible depth) (readAnnotated pool visible)) ∧
      ∀ (name : String) (bs : Bytes),
        (start bs).Advances (body pool name) (fun said => 3 * nodesIn said.values) ∧
          (∀ depth, bs.length < 3 * depth → (start bs).Mirrors (body pool name depth) (readBody pool name)) ∧
          ∀ said rest, readBody pool name bs = .ok (said, rest) →
            nodesIn said.values ≤ bs.length / 3 ∧ depthOf said.values ≤ bs.length / 3 := by
  refine ⟨fun visible r => ?_, fun name bs => ⟨?_, fun depth h => mirrors_body name h, ?_⟩⟩
  · have hdeep : r.left.length < 3 * (r.left.length + 1) := by omega
    refine ⟨?_, ?_, fun depth h => ⟨mirrors_value h h, mirrors_annotated h⟩⟩
    · exact (mirrors_value hdeep hdeep).advances below_value (takes_value _)
    · exact (mirrors_annotated hdeep).advances below_annotated takes_annotated
  · have hdeep : (start bs).left.length < 3 * (bs.length + 1) := by
      rw [length_left]
      show bs.length - 0 < _
      omega
    exact (mirrors_body name hdeep).advances (below_body name) (takes_body name)
  · intro said rest hread
    have hpaid : 3 * nodesIn said.values + rest.length ≤ bs.length := takes_body name hread
    have hdepth := depthOf_le_nodesIn said.values
    omega

/-- A list in a list. -/
def nestedLists : Value := .array [.array []]

/-- Six bytes, and they are read as two nodes. -/
theorem three_bytes_a_node_lists :
    ∃ r', (start [0x5B, 0, 1, 0x5B, 0, 0]).Comes (value ⟨#[]⟩ true) (.ok nestedLists) r' ∧
      r'.position = 3 * nestedLists.nodes := by
  obtain ⟨⟨answer, r', ⟨enough, hends⟩, honward, -, hpaid⟩, -, hmirrors⟩ :=
    (three_bytes_a_node ⟨#[]⟩).1 true (start [0x5B, 0, 1, 0x5B, 0, 0])
  have hdeep : (start [0x5B, 0, 1, 0x5B, 0, 0]).left.length < 3 * (enough + 3) := by
    show 6 < 3 * (enough + 3)
    omega
  obtain ⟨answer', r'', hends', -, hsame⟩ := (hmirrors (enough + 3) hdeep).1
  rw [hends (enough + 3) (Nat.le_add_right _ _)] at hends'
  cases hends'
  have hread : readValue ⟨#[]⟩ true (enough + 3) (start [0x5B, 0, 1, 0x5B, 0, 0]).left = .ok (nestedLists, []) := rfl
  rw [hread] at hsame
  obtain ⟨rfl, -⟩ := hsame.eq_ok
  have hmoved : 0 + 3 * nestedLists.nodes ≤ r'.position := hpaid nestedLists rfl
  have hinside : r'.position = 0 ∨ r'.position ≤ 6 := honward.inside
  have hnodes : nestedLists.nodes = 2 := rfl
  exact ⟨r', ⟨enough, hends⟩, by omega⟩

end Reader

end ClassAtlas.ClassFile
