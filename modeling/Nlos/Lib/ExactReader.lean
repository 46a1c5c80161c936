import Nlos.Lib.ByteReader

/-!
# What a decoder accepts

`Reads` says that a decoder inverts an encoder. The converse direction is about the inputs a
decoder accepts: `Yields p input Q` says that if `p` accepts `input`, then the value it returns
and the input it leaves satisfy `Q`. A decoder that only accepts encodings of its own values,
and accepts them all, `Decodes` them.
-/

namespace Nlos.Lib

open List

lemma beBytes_ofBeBytes (bytes : List UInt8) :
    beBytes bytes.length (ofBeBytes bytes) = bytes := by
  induction bytes using List.reverseRecOn with
  | nil => rfl
  | append_singleton bytes b ih =>
    have hb : b.toNat < 256 := b.toNat_lt
    have hdiv : (ofBeBytes bytes * 256 + b.toNat) / 256 = ofBeBytes bytes := by omega
    have hmod : (ofBeBytes bytes * 256 + b.toNat) % 256 = b.toNat := by omega
    rw [ofBeBytes_append_singleton, length_append, length_singleton, beBytes, hdiv,
      hmod, ih, UInt8.ofNat_toNat]

lemma Word.bytes_ofBytes {k bytes} (h : bytes.length = k) :
    (Word.ofBytes k bytes).bytes = bytes := by
  subst h
  have hval : (Word.ofBytes bytes.length bytes).val = ofBeBytes bytes :=
    Nat.mod_eq_of_lt (ofBeBytes_lt bytes)
  rw [Word.bytes, hval, beBytes_ofBeBytes]

/-- A code whose assigned bytes each stand for one value. -/
class LawfulByteTag (α : Type) [ByteTag α] : Prop where
  toByte_of_ofByte : ∀ {b : UInt8} {v : α}, ByteTag.ofByte b = some v → ByteTag.toByte v = b

/-- If `p` accepts `input`, then the value it returns and the rest it leaves satisfy `Q`. -/
def Yields {ε α : Type} (p : Reader ε α) (input : List UInt8) (Q : α → List UInt8 → Prop) : Prop :=
  ∀ v rest, p.run input = .ok (v, rest) → Q v rest

/-- `p` accepts exactly the encodings of the values with `P`, and returns the encoded value. -/
def Decodes {ε α : Type} (p : Reader ε α) (enc : α → List UInt8) (P : α → Prop) : Prop :=
  ∀ input v rest, p.run input = .ok (v, rest) ↔ P v ∧ input = enc v ++ rest

section Rules

variable {ε α β : Type} {p : Reader ε α} {f : α → Reader ε β} {input : List UInt8}
  {Q : β → List UInt8 → Prop} {enc : α → List UInt8} {P : α → Prop}

lemma Yields.imp {Q Q' : α → List UInt8 → Prop} (hp : Yields p input Q)
    (h : ∀ v rest, Q v rest → Q' v rest) : Yields p input Q' :=
  fun v rest hrun => h v rest (hp v rest hrun)

/-- An accepting sequence is an accepting first part and an accepting continuation. -/
@[simp] lemma yields_bind_iff :
    Yields (p >>= f) input Q ↔ Yields p input fun v mid => Yields (f v) mid Q := by
  unfold Yields
  rw [StateT.run_bind]
  cases hrun : p.run input with
  | error => simp [bind, Except.bind]
  | ok r =>
    obtain ⟨v, mid⟩ := r
    simp [bind, Except.bind]

@[simp] lemma yields_pure_iff {Q : α → List UInt8 → Prop} :
    Yields (pure v : Reader ε α) input Q ↔ Q v input := by
  constructor
  · intro h
    exact h v input rfl
  · intro h w rest hrun
    cases hrun
    exact h

@[simp] lemma yields_throw {Q : α → List UInt8 → Prop} (e : ε) :
    Yields (throw e : Reader ε α) input Q := by
  intro v rest hrun
  cases hrun

@[simp] lemma yields_map_iff :
    Yields (g <$> p) input Q ↔ Yields p input fun v rest => Q (g v) rest := by
  rw [map_eq_pure_bind, yields_bind_iff]
  simp only [yields_pure_iff]

/-- The two directions of an exact decoder. -/
lemma decodes_of_reads_of_yields (hreads : ∀ v, P v → Reads p (enc v) v)
    (hyields : ∀ input, Yields p input fun v rest => P v ∧ input = enc v ++ rest) :
    Decodes p enc P := by
  intro input v rest
  constructor
  · exact hyields input v rest
  · rintro ⟨hP, rfl⟩
    exact hreads v hP rest

lemma Decodes.reads (h : Decodes p enc P) (hv : P v) : Reads p (enc v) v :=
  fun rest => (h _ v rest).mpr ⟨hv, rfl⟩

lemma Decodes.yields_iff {Q : α → List UInt8 → Prop} (h : Decodes p enc P) :
    Yields p input Q ↔ ∀ v rest, P v → input = enc v ++ rest → Q v rest := by
  unfold Yields
  simp only [h input, and_imp]

lemma decodes_readSlice (e : ε) (k : ℕ) :
    Decodes (readSlice e k) id fun bytes => bytes.length = k := by
  intro input bytes rest
  by_cases hk : k ≤ input.length
  · simp only [readSlice, StateT.run, hk, if_true, Except.ok.injEq, Prod.mk.injEq, id]
    constructor
    · rintro ⟨rfl, rfl⟩
      exact ⟨by simpa using hk, (take_append_drop k input).symm⟩
    · rintro ⟨rfl, rfl⟩
      simp
  · simp only [readSlice, StateT.run, hk, if_false, reduceCtorEq, false_iff, id]
    rintro ⟨rfl, rfl⟩
    simp at hk

lemma decodes_readWord (e : ε) (k : ℕ) : Decodes (readWord e k) Word.bytes fun _ => True := by
  refine decodes_of_reads_of_yields (fun w _ => reads_readWord e w) fun input => ?_
  rw [readWord, yields_map_iff, (decodes_readSlice e k).yields_iff]
  intro bytes rest hlen hinput
  exact ⟨trivial, by rw [Word.bytes_ofBytes hlen, hinput, id]⟩

lemma decodes_readByte (e : ε) : Decodes (readByte e) (fun b => [b]) fun _ => True := by
  refine decodes_of_reads_of_yields (fun b _ => reads_readByte e b) fun input b rest hrun => ?_
  cases input with
  | nil => cases hrun
  | cons =>
    cases hrun
    exact ⟨trivial, rfl⟩

@[simp] lemma yields_readWord_iff {e : ε} {Q : Word k → List UInt8 → Prop} :
    Yields (readWord e k) input Q ↔ ∀ w rest, input = w.bytes ++ rest → Q w rest := by
  simp [(decodes_readWord e k).yields_iff]

@[simp] lemma yields_readByte_iff {e : ε} {Q : UInt8 → List UInt8 → Prop} :
    Yields (readByte e) input Q ↔ ∀ b rest, input = b :: rest → Q b rest := by
  simp [(decodes_readByte e).yields_iff]

@[simp] lemma yields_dite_iff {c : Prop} [Decidable c] {p : c → Reader ε α}
    {q : ¬ c → Reader ε α} {Q : α → List UInt8 → Prop} :
    Yields (if h : c then p h else q h) input Q ↔
      (∀ h : c, Yields (p h) input Q) ∧ ∀ h : ¬ c, Yields (q h) input Q := by
  by_cases h : c <;> simp [h]

@[simp] lemma yields_ite_iff {c : Prop} [Decidable c] {p q : Reader ε α}
    {Q : α → List UInt8 → Prop} :
    Yields (if c then p else q) input Q ↔
      (c → Yields p input Q) ∧ (¬ c → Yields q input Q) := by
  by_cases h : c <;> simp [h]

variable {short bad : ε}

lemma decodes_readNonzero (short zero : ε) (k : ℕ) :
    Decodes (readNonzero short zero k) (fun w => w.val.bytes) fun _ => True := by
  refine decodes_of_reads_of_yields (fun w _ => reads_readNonzero short zero w) fun input => ?_
  simp +contextual [readNonzero]

lemma decodes_readOption (hp : Decodes p enc P) :
    Decodes (readOption short bad p) (optionBytes enc) fun o => ∀ v ∈ o, P v := by
  refine decodes_of_reads_of_yields (fun o ho => ?_) fun input => ?_
  · cases o with
    | none => exact (reads_readByte short 0).bind_last_iff.mpr (Reads.pure none)
    | some v => exact (reads_readByte short 1).bind_iff.mpr (hp.reads (ho v rfl)).map
  · simp +contextual [readOption, hp.yields_iff, optionBytes]

lemma decodes_readBit (short bad : ε) :
    Decodes (readBit short bad) (fun b => [b.toUInt8]) fun _ => True := by
  refine decodes_of_reads_of_yields (fun b _ => reads_readBit short bad b) fun input => ?_
  simp +contextual [readBit, Bool.toUInt8]

lemma decodes_readTag [ByteTag α] [LawfulByteTag α] (short bad : ε) :
    Decodes (readTag short bad : Reader ε α) (fun v => [ByteTag.toByte v]) fun _ => True := by
  refine decodes_of_reads_of_yields (fun v _ => reads_readTag short bad v) fun input => ?_
  simp only [readTag, yields_bind_iff, yields_readByte_iff]
  rintro tag rest rfl
  split
  · next v hv => simp [LawfulByteTag.toByte_of_ofByte hv]
  · exact yields_throw bad

/-- A counted sequence is the encodings of its elements, one after the other. -/
lemma decodes_readMany (hp : Decodes p enc P) (n : ℕ) :
    Decodes (readMany p n) (List.flatMap enc) fun vs => vs.length = n ∧ ∀ v ∈ vs, P v := by
  refine decodes_of_reads_of_yields ?_ fun input => ?_
  · rintro vs ⟨rfl, hall⟩
    exact reads_readMany vs fun v hv => hp.reads (hall v hv)
  · induction n generalizing input with
    | zero => simp [readMany]
    | succ n ih =>
      rw [readMany, yields_bind_iff, hp.yields_iff]
      rintro v mid hv rfl
      rw [yields_bind_iff]
      refine (ih mid).imp fun vs rest hvs => ?_
      obtain ⟨⟨rfl, hall⟩, rfl⟩ := hvs
      rw [yields_pure_iff]
      refine ⟨⟨rfl, forall_mem_cons.mpr ⟨hv, hall⟩⟩, ?_⟩
      rw [flatMap_cons, append_assoc]

@[simp] lemma yields_readNonzero_iff
    {Q : { w : Word k // w ≠ 0 } → List UInt8 → Prop} : Yields (readNonzero short zero k) input Q ↔
      ∀ w rest, input = w.val.bytes ++ rest → Q w rest := by
  simp [(decodes_readNonzero short zero k).yields_iff]

@[simp] lemma yields_readOption_word_iff {Q : Option (Word k) → List UInt8 → Prop} :
    Yields (readOption short bad (readWord short k)) input Q ↔
      ∀ o rest, input = optionBytes Word.bytes o ++ rest → Q o rest := by
  simp [(decodes_readOption (decodes_readWord short k)).yields_iff]

@[simp] lemma yields_readBit_iff {Q : Bool → List UInt8 → Prop} :
    Yields (readBit short bad) input Q ↔ ∀ b rest, input = b.toUInt8 :: rest → Q b rest := by
  simp [(decodes_readBit short bad).yields_iff]

@[simp] lemma yields_readTag_iff [ByteTag α] [LawfulByteTag α]
    {Q : α → List UInt8 → Prop} : Yields (readTag short bad) input Q ↔
      ∀ v rest, input = ByteTag.toByte v :: rest → Q v rest := by
  simp [(decodes_readTag short bad).yields_iff]

end Rules

/-! ## Frames -/

lemma take_append_extract {bytes : List UInt8} (hij : i ≤ j) :
    bytes.take i ++ bytes.extract i j = bytes.take j := by
  obtain ⟨n, rfl⟩ := Nat.exists_eq_add_of_le hij
  rw [take_add, extract_eq_take_drop, Nat.add_sub_cancel_left]

lemma length_extract (bytes : List UInt8) (i j : ℕ) :
    (bytes.extract i j).length = min (j - i) (bytes.length - i) := by
  rw [extract_eq_take_drop, length_take, length_drop]

/-- The middle of three adjacent parts. -/
lemma extract_append (a b c : List UInt8) :
    (a ++ b ++ c).extract a.length (a.length + b.length) = b := by
  simp [extract_eq_take_drop]

lemma extract_succ {bytes : List UInt8} (hi : i < bytes.length) (d : UInt8) :
    bytes.extract i (i + 1) = [bytes.getD i d] := by
  rw [extract_eq_take_drop, Nat.add_sub_cancel_left, drop_eq_getElem_cons hi,
    getD_eq_getElem _ _ hi]
  rfl

section Parts

variable (head body tail : List UInt8)

lemma length_field_eq {body} (hbody : body.length < 256 ^ 4) :
    ofBeBytes ((head ++ beBytes 4 body.length ++ body ++ tail).extract head.length
      (head.length + 4)) = body.length := by
  have h := extract_append head (beBytes 4 body.length) (body ++ tail)
  rw [length_beBytes, ← append_assoc] at h
  rw [h, ofBeBytes_beBytes, Nat.mod_eq_of_lt hbody]

lemma body_eq : (head ++ beBytes 4 body.length ++ body ++ tail).extract (head.length + 4)
      (head.length + 4 + body.length) = body := by
  have h := extract_append (head ++ beBytes 4 body.length) body tail
  rwa [length_append, length_beBytes] at h

end Parts

lemma lengthFrame_inj (ha : a.length < 256 ^ 4) (hb : b.length < 256 ^ 4)
    (h : beBytes 4 a.length ++ (a ++ x) = beBytes 4 b.length ++ (b ++ y)) : a = b ∧ x = y := by
  obtain ⟨hfield, hrest⟩ := append_inj h (by simp)
  have hlength : a.length = b.length := by
    have hvalue := congrArg ofBeBytes hfield
    rwa [ofBeBytes_beBytes, ofBeBytes_beBytes, Nat.mod_eq_of_lt ha, Nat.mod_eq_of_lt hb] at hvalue
  exact append_inj hrest hlength

lemma take_eq_of_length_field {bytes : List UInt8} (hm : m + 4 ≤ stop)
    (hstop : stop ≤ bytes.length) (hlen : m + 4 + ofBeBytes (bytes.extract m (m + 4)) = stop) :
    bytes.take stop = bytes.take m ++ beBytes 4 (bytes.extract (m + 4) stop).length ++
      bytes.extract (m + 4) stop := by
  have hfield : (bytes.extract m (m + 4)).length = 4 := by
    rw [length_extract]
    omega
  have hbody : (bytes.extract (m + 4) stop).length = ofBeBytes (bytes.extract m (m + 4)) := by
    rw [length_extract]
    omega
  have hbytes : beBytes 4 (bytes.extract (m + 4) stop).length = bytes.extract m (m + 4) := by
    have h := beBytes_ofBeBytes (bytes.extract m (m + 4))
    rwa [hfield, ← hbody] at h
  rw [hbytes, take_append_extract (Nat.le_add_right m 4), take_append_extract hm]

end Nlos.Lib
