import Mathlib

/-!
# Big-endian words and cursor readers

A `k`-byte big-endian word is a number below `256 ^ k`, so that the order of words is the
order of numbers and also the lexicographic order of their byte strings. Decoders are
readers over the remaining input. `Reads p bytes v` says that `p` consumes exactly `bytes`
and returns `v` whatever follows, which is what lets field codecs compose.
-/

namespace Nlos.Lib

open List

/-- The value of a `k`-byte big-endian word. -/
abbrev Word (k : ℕ) := Fin (256 ^ k)

-- closed instances at the widths in use
instance neZero_u8 : NeZero (256 ^ 1) := ⟨by norm_num⟩

instance neZero_u32 : NeZero (256 ^ 4) := ⟨by norm_num⟩

instance neZero_u64 : NeZero (256 ^ 8) := ⟨by norm_num⟩

instance neZero_u128 : NeZero (256 ^ 16) := ⟨by norm_num⟩

instance neZero_u256 : NeZero (256 ^ 32) := ⟨by norm_num⟩

instance neZero_u512 : NeZero (256 ^ 64) := ⟨by norm_num⟩

instance transOrd_u128 : Std.TransOrd (Word 16) := inferInstance

instance transOrd_pair : @Std.TransOrd (Word 16 × Word 8) lexOrd := inferInstance

lemma one_ne_zero_u64 : (1 : Word 8) ≠ 0 := by decide

/-- The `k` big-endian bytes of `n`; higher digits are dropped. -/
def beBytes : ℕ → ℕ → List UInt8
  | 0, _ => []
  | k + 1, n => beBytes k (n / 256) ++ [UInt8.ofNat (n % 256)]

/-- The number with the given big-endian bytes. -/
def ofBeBytes (bytes : List UInt8) : ℕ :=
  bytes.foldl (fun acc b => acc * 256 + b.toNat) 0

@[simp] lemma length_beBytes (k n : ℕ) : (beBytes k n).length = k := by
  induction k generalizing n with
  | zero => rfl
  | succ k ih => simp [beBytes, ih]

lemma ofBeBytes_append_singleton (bytes : List UInt8) (b : UInt8) :
    ofBeBytes (bytes ++ [b]) = ofBeBytes bytes * 256 + b.toNat := by
  simp [ofBeBytes]

lemma ofBeBytes_beBytes (k n : ℕ) : ofBeBytes (beBytes k n) = n % 256 ^ k := by
  induction k generalizing n with
  | zero => simp [beBytes, ofBeBytes, Nat.mod_one]
  | succ k ih =>
    have hdigit : (UInt8.ofNat (n % 256)).toNat = n % 256 := by
      simp
    rw [beBytes, ofBeBytes_append_singleton, ih, hdigit, pow_succ', Nat.mod_mul]
    ring

lemma ofBeBytes_lt (bytes : List UInt8) : ofBeBytes bytes < 256 ^ bytes.length := by
  induction bytes using reverseRecOn with
  | nil => simp [ofBeBytes]
  | append_singleton bytes b =>
    have hb : b.toNat < 256 := b.toNat_lt
    rw [ofBeBytes_append_singleton, length_append, length_singleton, pow_succ]
    omega

def Word.bytes {k : ℕ} (w : Word k) : List UInt8 := beBytes k w.val

variable {k : ℕ}

@[simp] lemma Word.length_bytes (w : Word k) : w.bytes.length = k :=
  length_beBytes k w.val

/-- The word with the given bytes, read modulo its width. -/
def Word.ofBytes (k : ℕ) (bytes : List UInt8) : Word k :=
  ⟨ofBeBytes bytes % 256 ^ k, Nat.mod_lt _ (Nat.pow_pos (by decide))⟩

@[simp] lemma Word.ofBytes_bytes (w : Word k) : Word.ofBytes k w.bytes = w := by
  apply Fin.ext
  simp [Word.ofBytes, Word.bytes, ofBeBytes_beBytes, Nat.mod_eq_of_lt w.isLt]

lemma Word.bytes_injective : Function.Injective (Word.bytes (k := k)) := by
  intro v w h
  rw [← Word.ofBytes_bytes v, h, Word.ofBytes_bytes]

lemma Word.bytes_append_inj {v w : Word k} :
    v.bytes ++ l = w.bytes ++ l' ↔ v = w ∧ l = l' := by
  refine ⟨fun h => ?_, fun ⟨hv, hl⟩ => by rw [hv, hl]⟩
  obtain ⟨hv, hl⟩ := append_inj h (by simp)
  exact ⟨Word.bytes_injective hv, hl⟩

def Word.saturatingAdd {k : ℕ} (v w : Word k) : Word k :=
  ⟨min (v.val + w.val) (256 ^ k - 1), by have := v.isLt; omega⟩

def Word.saturatingSub {k : ℕ} (v w : Word k) : Word k :=
  ⟨v.val - w.val, by have := v.isLt; omega⟩

def Word.checkedAdd {k : ℕ} (v w : Word k) : Option (Word k) :=
  if h : v.val + w.val < 256 ^ k then some ⟨v.val + w.val, h⟩ else none

lemma Word.saturatingAdd_val {v w : Word k} (h : v.val + w.val < 256 ^ k) :
    (v.saturatingAdd w).val = v.val + w.val := by
  simp only [Word.saturatingAdd]
  omega

@[simp] lemma Word.saturatingSub_val (v w : Word k) :
    (v.saturatingSub w).val = v.val - w.val := rfl

lemma Word.checkedAdd_eq_some_iff {v w u : Word k} :
    v.checkedAdd w = some u ↔ u.val = v.val + w.val := by
  unfold Word.checkedAdd
  split
  · rw [Option.some.injEq, Fin.ext_iff, eq_comm]
  · next h =>
    have := u.isLt
    simp only [reduceCtorEq, false_iff]
    omega

/-! ## Readers -/

/-- A reader consumes a prefix of the remaining input or fails. -/
abbrev Reader (ε : Type) := StateT (List UInt8) (Except ε)

/-- `p` consumes exactly `bytes` and returns `v`, whatever the rest of the input is. -/
def Reads {ε α : Type} (p : Reader ε α) (bytes : List UInt8) (v : α) : Prop :=
  ∀ rest, p.run (bytes ++ rest) = .ok (v, rest)

section Rules

variable {ε α β : Type}

lemma Reads.pure (v : α) : Reads (pure v : Reader ε α) [] v := fun _ => rfl

variable {p : Reader ε α} {f : α → Reader ε β} {v : α}

/-- Sequencing consumes the first field and continues with its value. -/
lemma Reads.bind_iff
    (hp : Reads p b₁ v) : Reads (p >>= f) (b₁ ++ b₂) w ↔ Reads (f v) b₂ w := by
  have hrun (rest : List UInt8) : (p >>= f).run (b₁ ++ b₂ ++ rest) = (f v).run (b₂ ++ rest) := by
    rw [append_assoc, StateT.run_bind, hp (b₂ ++ rest)]
    rfl
  simp only [Reads, hrun]

variable {b : List UInt8}

lemma Reads.bind_last_iff (hp : Reads p b v) : Reads (p >>= f) b w ↔ Reads (f v) [] w := by
  have hnil : Reads (p >>= f) (b ++ []) w ↔ Reads (f v) [] w := hp.bind_iff
  rwa [append_nil] at hnil

lemma Reads.map {f : α → β} (hp : Reads p b v) : Reads (f <$> p) b (f v) := by
  intro rest
  simp only [StateT.run_map, hp rest]
  rfl

/-- A decoder that ends by packing its last field reads the packed value only. -/
lemma Reads.map_iff {f : α → β} (hp : Reads p b v) : Reads (f <$> p) b w ↔ f v = w := by
  refine ⟨fun h => ?_, fun h => h ▸ hp.map⟩
  have hrun : Except.ok (ε := ε) (f v, ([] : List UInt8)) = .ok (w, []) :=
    (hp.map []).symm.trans (h [])
  simpa using hrun

lemma Reads.run_nil (hp : Reads p b v) : p.run b = .ok (v, []) := by
  simpa using hp []

@[simp] lemma reads_pure_nil_iff :
    Reads (pure v : Reader ε α) [] w ↔ v = w := by
  refine ⟨fun h => ?_, fun h => h ▸ Reads.pure v⟩
  have hrun : Except.ok (ε := ε) (v, ([] : List UInt8)) = .ok (w, []) := h []
  simpa using hrun

def mapErr {ε' : Type} (g : ε → ε') (p : Reader ε α) : Reader ε' α := fun input =>
  (p input).mapError g

lemma Reads.mapErr {ε' : Type} (g : ε → ε') (hp : Reads p b v) : Reads (mapErr g p) b v := by
  intro rest
  change Except.mapError g (p.run (b ++ rest)) = _
  rw [hp rest]
  rfl

/-- A check or a conversion in front of a reader consumes nothing. -/
lemma reads_ofExcept_bind
    (hx : x = .ok v) : Reads (ofExcept x >>= f) b w ↔ Reads (f v) b w := by
  subst hx
  exact (Reads.pure v).bind_iff

def readSlice (e : ε) (k : ℕ) : Reader ε (List UInt8) := fun input =>
  if k ≤ input.length then .ok (input.take k, input.drop k) else .error e

lemma reads_readSlice (e : ε) (bytes : List UInt8) :
    Reads (readSlice e bytes.length) bytes bytes := by
  intro rest
  simp [readSlice, StateT.run]

def readWord (e : ε) (k : ℕ) : Reader ε (Word k) := Word.ofBytes k <$> readSlice e k

lemma reads_readWord (e : ε) {k : ℕ} (w : Word k) : Reads (readWord e k) w.bytes w := by
  have h := (reads_readSlice e w.bytes).map (f := Word.ofBytes k)
  rwa [Word.length_bytes, Word.ofBytes_bytes] at h

def readByte (e : ε) : Reader ε UInt8 := fun input =>
  match input with
  | [] => .error e
  | b :: rest => .ok (b, rest)

lemma reads_readByte (e : ε) (b : UInt8) : Reads (readByte e) [b] b := fun _ => rfl

/-- Reads a word that must not be zero: `short` when too few bytes remain, `zero` on zero. -/
def readNonzero (short zero : ε) (k : ℕ) : Reader ε { w : Word k // w ≠ 0 } := do
  let w ← readWord short k
  if h : w ≠ 0 then pure ⟨w, h⟩ else throw zero

lemma reads_readNonzero (short zero : ε) (w : { w : Word k // w ≠ 0 }) :
    Reads (readNonzero short zero k) w.val.bytes w := by
  rw [readNonzero, (reads_readWord short w.val).bind_last_iff, dif_pos w.property]
  exact Reads.pure w

/-- An optional field: a presence byte, then the field. -/
def optionBytes (enc : α → List UInt8) : Option α → List UInt8
  | none => [0]
  | some v => 1 :: enc v

variable {enc : α → List UInt8}

def readOption (short bad : ε) (p : Reader ε α) : Reader ε (Option α) := do
  let tag ← readByte short
  if tag = 0 then pure none
  else if tag = 1 then some <$> p
  else throw bad

lemma reads_readOption (short bad : ε) (hp : ∀ v, Reads p (enc v) v) (o : Option α) :
    Reads (readOption short bad p) (optionBytes enc o) o := by
  cases o with
  | none => exact (reads_readByte short 0).bind_last_iff.mpr (Reads.pure none)
  | some v =>
    have hread : Reads (some <$> p) (enc v) (some v) := (hp v).map
    exact (reads_readByte short 1).bind_iff.mpr hread

/-- A byte that must be zero or one. -/
def readBit (short bad : ε) : Reader ε Bool := do
  let tag ← readByte short
  if tag = 0 then pure false
  else if tag = 1 then pure true
  else throw bad

lemma reads_readBit (short bad : ε) (b : Bool) : Reads (readBit short bad) [b.toUInt8] b := by
  rw [readBit, (reads_readByte short b.toUInt8).bind_last_iff]
  cases b <;> exact Reads.pure _

/-- An enumeration with a one-byte code. -/
class ByteTag (α : Type) where
  toByte : α → UInt8
  ofByte : UInt8 → Option α
  ofByte_toByte : ∀ v, ofByte (toByte v) = some v

def readTag [ByteTag α] (short bad : ε) : Reader ε α := do
  let tag ← readByte short
  match ByteTag.ofByte tag with
  | some v => pure v
  | none => throw bad

lemma reads_readTag [ByteTag α] (short bad : ε) (v : α) :
    Reads (readTag short bad) [ByteTag.toByte v] v := by
  rw [readTag, (reads_readByte short _).bind_last_iff, ByteTag.ofByte_toByte]
  exact Reads.pure v

/-- Runs `p` a fixed number of times, collecting the results in order. -/
def readMany (p : Reader ε α) : ℕ → Reader ε (List α)
  | 0 => Pure.pure []
  | n + 1 => do
    let v ← p
    let vs ← readMany p n
    Pure.pure (v :: vs)

lemma reads_readMany (vs : List α) (hp : ∀ v ∈ vs, Reads p (enc v) v) :
    Reads (readMany p vs.length) (vs.flatMap enc) vs := by
  induction vs with
  | nil => exact Reads.pure []
  | cons v vs ih =>
    have htail := ih (fun w hw => hp w (mem_cons_of_mem v hw))
    rw [length_cons, readMany, flatMap_cons, (hp v mem_cons_self).bind_iff, htail.bind_last_iff]
    exact Reads.pure (v :: vs)

/-! ## Running a decoder on the bytes of its fields -/

section Run

variable {f : α → Reader ε β} {b : List UInt8} {w : β} {short bad : ε} {k : ℕ}

@[simp] lemma reads_readWord_bind {f} (v : Word k) :
    Reads (readWord short k >>= f) (v.bytes ++ b) w ↔ Reads (f v) b w :=
  (reads_readWord short v).bind_iff

@[simp] lemma reads_readWord_map {f : Word k → β} (v : Word k) :
    Reads (f <$> readWord short k) v.bytes w ↔ f v = w :=
  (reads_readWord short v).map_iff

@[simp] lemma reads_readByte_bind {f} (v : UInt8) :
    Reads (readByte short >>= f) (v :: b) w ↔ Reads (f v) b w :=
  (reads_readByte short v).bind_iff

@[simp] lemma reads_readNonzero_bind {f : { w : Word k // w ≠ 0 } → Reader ε β}
    (v : { w : Word k // w ≠ 0 }) :
    Reads (readNonzero short bad k >>= f) (v.val.bytes ++ b) w ↔ Reads (f v) b w :=
  (reads_readNonzero short bad v).bind_iff

@[simp] lemma reads_readNonzero_map {f : { w : Word k // w ≠ 0 } → β}
    (v : { w : Word k // w ≠ 0 }) : Reads (f <$> readNonzero short bad k) v.val.bytes w ↔ f v = w :=
  (reads_readNonzero short bad v).map_iff

@[simp] lemma reads_readOption_bind {f} (o : Option (Word k)) :
    Reads (readOption short bad (readWord short k) >>= f) (optionBytes Word.bytes o ++ b) w ↔
      Reads (f o) b w :=
  (reads_readOption short bad (reads_readWord short) o).bind_iff

@[simp] lemma reads_readOption_map {f : Option (Word k) → β} (o : Option (Word k)) :
    Reads (f <$> readOption short bad (readWord short k)) (optionBytes Word.bytes o) w ↔ f o = w :=
  (reads_readOption short bad (reads_readWord short) o).map_iff

@[simp] lemma reads_readBit_bind {f} (v : Bool) :
    Reads (readBit short bad >>= f) (v.toUInt8 :: b) w ↔ Reads (f v) b w :=
  (reads_readBit short bad v).bind_iff

@[simp] lemma reads_readBit_map {f : Bool → β} (v : Bool) :
    Reads (f <$> readBit short bad) [v.toUInt8] w ↔ f v = w :=
  (reads_readBit short bad v).map_iff

@[simp] lemma reads_readTag_bind [ByteTag α] (v : α) :
    Reads (readTag short bad >>= f) (ByteTag.toByte v :: b) w ↔ Reads (f v) b w :=
  (reads_readTag short bad v).bind_iff

end Run

end Rules

end Nlos.Lib
