import Nlos.Lib.ByteReader

/-!
# Deterministic CBOR

A data item starts with a head: three bits of major type and an argument. The writer uses the
shortest form of every argument and definite lengths only.
-/

namespace Nlos.Lib.Cbor

inductive Fault where
  | endOfInput
  | typeMismatch
  | overflow
  | utf8
deriving DecidableEq

inductive Major where
  | unsigned
  | bytes
  | text
  | array
  | map
deriving DecidableEq

def Major.code : Major → ℕ
  | .unsigned => 0
  | .bytes => 2
  | .text => 3
  | .array => 4
  | .map => 5

lemma Major.code_lt (m : Major) : m.code < 8 := by
  cases m <;> decide

def utf8Bytes (s : String) : List UInt8 := s.toByteArray.data.toList

def ofUtf8Bytes? (bytes : List UInt8) : Option String := String.fromUTF8? ⟨bytes.toArray⟩

/-- Decoding of text is exact. -/
lemma ofUtf8Bytes?_eq_some_iff : ofUtf8Bytes? bytes = some s ↔ utf8Bytes s = bytes := by
  unfold ofUtf8Bytes? String.fromUTF8? utf8Bytes
  constructor
  · intro h
    split at h
    · cases h
      simp [String.fromUTF8]
    · cases h
  · rintro rfl
    have hvalid : ByteArray.IsValidUTF8 ⟨s.toByteArray.data.toList.toArray⟩ := by
      simpa using s.isValidUTF8
    rw [dif_pos hvalid, Option.some.injEq]
    apply String.toByteArray_inj.mp
    simp [String.fromUTF8]

lemma utf8Bytes_injective : Function.Injective utf8Bytes := by
  intro s t h
  have hs : ofUtf8Bytes? (utf8Bytes t) = some s := ofUtf8Bytes?_eq_some_iff.mpr h
  have ht : ofUtf8Bytes? (utf8Bytes t) = some t := ofUtf8Bytes?_eq_some_iff.mpr rfl
  rw [hs] at ht
  exact Option.some.inj ht

/-- The low five bits of the head with argument `n`. -/
def argumentInfo (n : ℕ) : ℕ :=
  if n < 24 then n
  else if n < 256 ^ 1 then 24
  else if n < 256 ^ 2 then 25
  else if n < 256 ^ 4 then 26
  else 27

def argumentBytes (n : ℕ) : List UInt8 :=
  if n < 24 then []
  else if n < 256 ^ 1 then beBytes 1 n
  else if n < 256 ^ 2 then beBytes 2 n
  else if n < 256 ^ 4 then beBytes 4 n
  else beBytes 8 n

def head (m : Major) (n : ℕ) : List UInt8 :=
  UInt8.ofNat (m.code * 32 + argumentInfo n) :: argumentBytes n

def writeUnsigned (n : ℕ) : List UInt8 := head .unsigned n

def writeBytes (bytes : List UInt8) : List UInt8 := head .bytes bytes.length ++ bytes

def writeText (s : String) : List UInt8 := head .text (utf8Bytes s).length ++ utf8Bytes s

def writeMap (n : ℕ) : List UInt8 := head .map n

lemma argumentInfo_lt (n : ℕ) : argumentInfo n < 28 := by
  unfold argumentInfo
  split_ifs <;> omega

lemma initial_toNat (m : Major) (n : ℕ) :
    (UInt8.ofNat (m.code * 32 + argumentInfo n)).toNat = m.code * 32 + argumentInfo n := by
  have hm := m.code_lt
  have hn := argumentInfo_lt n
  rw [UInt8.toNat_ofNat']
  omega

def readInitial (m : Major) : Reader Fault ℕ := do
  let b ← readByte .endOfInput
  if b.toNat / 32 = m.code then pure (b.toNat % 32) else throw .typeMismatch

/-- Reads the argument announced by the low five bits of an initial byte, at any width. -/
def readArgument (info : ℕ) : Reader Fault ℕ :=
  if info < 24 then pure info
  else if info = 24 then Fin.val <$> readWord .endOfInput 1
  else if info = 25 then Fin.val <$> readWord .endOfInput 2
  else if info = 26 then Fin.val <$> readWord .endOfInput 4
  else if info = 27 then Fin.val <$> readWord .endOfInput 8
  else throw .typeMismatch

def readUnsigned (k : ℕ) : Reader Fault (Word k) := do
  let info ← readInitial .unsigned
  let n ← readArgument info
  if h : n < 256 ^ k then pure ⟨n, h⟩ else throw .overflow

def readBytes : Reader Fault (List UInt8) := do
  let info ← readInitial .bytes
  let n ← readArgument info
  readSlice .endOfInput n

def readText : Reader Fault String := do
  let info ← readInitial .text
  let n ← readArgument info
  let bytes ← readSlice .endOfInput n
  match ofUtf8Bytes? bytes with
  | some s => pure s
  | none => throw .utf8

/-- Reads the head of an array or a map: `none` when its length is indefinite. -/
def readLength (m : Major) : Reader Fault (Option ℕ) := do
  let info ← readInitial m
  if info = 31 then pure none else some <$> readArgument info

def readMap : Reader Fault (Option ℕ) := readLength .map

section Inverse

variable {β : Type} {n : ℕ} {rest : List UInt8} {w : β}

lemma reads_readInitial (m : Major) (n : ℕ) :
    Reads (readInitial m) [UInt8.ofNat (m.code * 32 + argumentInfo n)] (argumentInfo n) := by
  have hn := argumentInfo_lt n
  have hdiv : (m.code * 32 + argumentInfo n) / 32 = m.code := by omega
  have hmod : (m.code * 32 + argumentInfo n) % 32 = argumentInfo n := by omega
  rw [readInitial, (reads_readByte _ _).bind_last_iff, initial_toNat, if_pos hdiv, hmod]
  exact Reads.pure _

/-- An argument is read back from its shortest form. -/
lemma reads_readArgument (hn : n < 256 ^ 8) :
    Reads (readArgument (argumentInfo n)) (argumentBytes n) n := by
  have hword (k : ℕ) (hk : n < 256 ^ k) :
      Reads (Fin.val <$> readWord Fault.endOfInput k) (beBytes k n) n :=
    (reads_readWord Fault.endOfInput (⟨n, hk⟩ : Word k)).map
  unfold argumentInfo argumentBytes
  split_ifs with h24 h1 h2 h4
  · rw [readArgument, if_pos h24]
    exact Reads.pure n
  · exact hword 1 h1
  · exact hword 2 h2
  · exact hword 4 h4
  · exact hword 8 hn

/-- Reading a head and going on with its argument. -/
lemma reads_head (hn : n < 256 ^ 8) (hf : Reads (f n) rest w) :
    Reads (readInitial m >>= fun info => readArgument info >>= f) (head m n ++ rest) w := by
  have hsplit : head m n ++ rest =
      [UInt8.ofNat (m.code * 32 + argumentInfo n)] ++ (argumentBytes n ++ rest) := by
    simp [head]
  rw [hsplit, (reads_readInitial m n).bind_iff, (reads_readArgument hn).bind_iff]
  exact hf

lemma reads_readUnsigned (hk : k ≤ 8) (v : Word k) :
    Reads (readUnsigned k) (writeUnsigned v.val) v := by
  have hv : v.val < 256 ^ 8 := v.isLt.trans_le (Nat.pow_le_pow_right (by decide) hk)
  have hread : Reads (readUnsigned k) (head .unsigned v.val ++ []) v :=
    reads_head hv (by rw [dif_pos v.isLt]; exact Reads.pure v)
  rwa [List.append_nil] at hread

lemma reads_readBytes (hlen : bytes.length < 256 ^ 8) :
    Reads readBytes (writeBytes bytes) bytes :=
  reads_head hlen (reads_readSlice Fault.endOfInput bytes)

lemma reads_readText (hlen : (utf8Bytes s).length < 256 ^ 8) :
    Reads readText (writeText s) s := by
  refine reads_head hlen ?_
  rw [(reads_readSlice _ (utf8Bytes s)).bind_last_iff, ofUtf8Bytes?_eq_some_iff.mpr rfl]
  exact Reads.pure s

lemma reads_readLength (hn : n < 256 ^ 8) : Reads (readLength m) (head m n) (some n) := by
  have hinfo : argumentInfo n ≠ 31 := by
    have := argumentInfo_lt n
    omega
  have hsplit : head m n =
      [UInt8.ofNat (m.code * 32 + argumentInfo n)] ++ argumentBytes n := rfl
  rw [readLength, hsplit, (reads_readInitial m n).bind_iff, if_neg hinfo]
  exact (reads_readArgument hn).map

lemma reads_readMap (hn : n < 256 ^ 8) : Reads readMap (writeMap n) (some n) :=
  reads_readLength hn

end Inverse

end Nlos.Lib.Cbor
