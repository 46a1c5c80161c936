import Nlos.Capability.Authority

/-!
# Attenuation

What a delegation may not widen, as one relation between the terms of a capability and those of its
parent.
-/

namespace Nlos.Capability

open Lib

lemma prefixLen_le (bytes : List UInt8) (n : ℕ) : prefixLen bytes n ≤ n := by
  induction n with
  | zero => exact le_rfl
  | succ n ih =>
    rw [prefixLen]
    split_ifs
    · exact ih.trans n.le_succ
    · exact le_rfl

lemma getD_prefixLen_ne_zero (h : prefixLen bytes n = m + 1) :
    bytes.getD m 0 ≠ 0 := by
  induction n with
  | zero => simp [prefixLen] at h
  | succ n ih =>
    rw [prefixLen] at h
    split_ifs at h with hzero
    · exact ih h
    · obtain rfl : n = m := Nat.succ.inj h
      exact hzero

/-- A path reaches at least to each of its nonzero bytes. -/
lemma lt_prefixLen (hm : m < n) (h : bytes.getD m 0 ≠ 0) : m < prefixLen bytes n := by
  induction n with
  | zero => omega
  | succ n ih =>
    rw [prefixLen]
    split_ifs with hzero
    · refine ih (Nat.lt_of_le_of_ne (Nat.le_of_lt_succ hm) ?_)
      rintro rfl
      exact h hzero
    · exact hm

lemma namespaceIsWithin_iff :
    namespaceIsWithin child ancestor ↔ child.bytes.take (namespacePrefixLen ancestor) =
      ancestor.bytes.take (namespacePrefixLen ancestor) :=
  decide_eq_true_iff

lemma namespacePrefixLen_le (h : namespaceIsWithin child ancestor) :
    namespacePrefixLen ancestor ≤ namespacePrefixLen child := by
  rw [namespaceIsWithin_iff] at h
  unfold namespacePrefixLen at h ⊢
  cases hlen : prefixLen ancestor.bytes 16 with
  | zero => exact Nat.zero_le _
  | succ m =>
    have hm : m < 16 := by
      have := prefixLen_le ancestor.bytes 16
      omega
    -- The last active byte of the ancestor is a nonzero byte of the child.
    have hbyte : child.bytes.getD m 0 = ancestor.bytes.getD m 0 := by
      have htake := congrArg (fun l => l.getD m 0) h
      simpa [hlen, List.getD_eq_getElem?_getD, List.getElem?_take] using htake
    have hactive := getD_prefixLen_ne_zero hlen
    rw [← hbyte] at hactive
    exact lt_prefixLen hm hactive

lemma namespaceIsWithin_refl (namespaceId : NamespaceId) :
    namespaceIsWithin namespaceId namespaceId :=
  namespaceIsWithin_iff.mpr rfl

lemma namespaceIsWithin_trans (hab : namespaceIsWithin a b)
    (hbc : namespaceIsWithin b c) : namespaceIsWithin a c := by
  have hlen := namespacePrefixLen_le hbc
  rw [namespaceIsWithin_iff] at hab hbc ⊢
  have hshort := congrArg (List.take (namespacePrefixLen c)) hab
  rw [List.take_take, List.take_take, Nat.min_eq_left hlen] at hshort
  exact hshort.trans hbc

lemma targetIsWithin_refl (target : CapabilityTarget) : targetIsWithin target target := by
  cases target with
  | namespaced namespaceId => exact namespaceIsWithin_refl namespaceId
  | task => exact decide_eq_true rfl

lemma targetIsWithin_trans (hab : targetIsWithin a b)
    (hbc : targetIsWithin b c) : targetIsWithin a c := by
  cases a <;> cases b <;> cases c <;> simp only [targetIsWithin, Bool.false_eq_true] at hab hbc ⊢
  · exact namespaceIsWithin_trans hab hbc
  · exact decide_eq_true ((of_decide_eq_true hab).trans (of_decide_eq_true hbc))

lemma CapabilityRights.contains_refl (rights : CapabilityRights) : rights.contains rights :=
  decide_eq_true (UInt64.and_self)

lemma CapabilityRights.contains_trans {a b c : CapabilityRights} (hab : a.contains b)
    (hbc : b.contains c) : a.contains c := by
  have hab : a.bits &&& b.bits = b.bits := of_decide_eq_true hab
  have hbc : b.bits &&& c.bits = c.bits := of_decide_eq_true hbc
  apply decide_eq_true
  calc a.bits &&& c.bits = a.bits &&& (b.bits &&& c.bits) := by rw [hbc]
    _ = a.bits &&& b.bits &&& c.bits := (UInt64.and_assoc _ _ _).symm
    _ = c.bits := by rw [hab, hbc]

lemma purposeIsAttenuated_iff :
    purposeIsAttenuated parent child ↔ parent = none ∨ parent = child := by
  cases parent <;> cases child <;> simp [purposeIsAttenuated]

lemma callLimitIsAttenuated_iff : callLimitIsAttenuated parent child ↔
      ∀ maximum ∈ parent, ∃ actual ∈ child, actual ≤ maximum := by
  cases parent <;> cases child <;> simp [callLimitIsAttenuated]

/-- The terms of a child grant nothing that those of its parent do not. -/
structure CapabilityTerms.Attenuates (child parent : CapabilityTerms) : Prop where
  rights : parent.rights.contains child.rights
  target : targetIsWithin child.target parent.target
  purpose : parent.purposeDigest = none ∨ parent.purposeDigest = child.purposeDigest
  validFrom : parent.validFromMs ≤ child.validFromMs
  validUntil : child.validUntilMs ≤ parent.validUntilMs
  callLimit : ∀ maximum ∈ parent.callLimit, ∃ actual ∈ child.callLimit, actual ≤ maximum

namespace CapabilityTerms.Attenuates

lemma refl (terms : CapabilityTerms) : terms.Attenuates terms where
  rights := terms.rights.contains_refl
  target := targetIsWithin_refl terms.target
  purpose := .inr rfl
  validFrom := le_rfl
  validUntil := le_rfl
  callLimit maximum hmaximum := ⟨maximum, hmaximum, le_rfl⟩

lemma trans {a b c : CapabilityTerms} (hab : a.Attenuates b) (hbc : b.Attenuates c) :
    a.Attenuates c where
  rights := CapabilityRights.contains_trans hbc.rights hab.rights
  target := targetIsWithin_trans hab.target hbc.target
  purpose := by
    rcases hbc.purpose with hnone | hsame
    · exact .inl hnone
    · rw [hsame]
      exact hab.purpose
  validFrom := hbc.validFrom.trans hab.validFrom
  validUntil := hab.validUntil.trans hbc.validUntil
  callLimit maximum hmaximum := by
    obtain ⟨middle, hmiddle, hle⟩ := hbc.callLimit maximum hmaximum
    obtain ⟨actual, hactual, hle'⟩ := hab.callLimit middle hmiddle
    exact ⟨actual, hactual, hle'.trans hle⟩

end CapabilityTerms.Attenuates

lemma attenuates_of_checkAttenuation
    (h : CapabilityAuthority.checkAttenuation parent request = .ok ()) :
    (request.terms delegator recipient).Attenuates parent.toCapabilityTerms ∧
      request.delegationDepthRemaining < parent.delegationDepthRemaining := by
  simp only [CapabilityAuthority.checkAttenuation, bind_eq_ok, refuseIf_eq_ok] at h
  obtain ⟨-, -, -, hrights, -, htarget, -, hpurpose, -, hvalid, -, hlimit, hdepth⟩ := h
  rw [not_not] at hrights htarget
  rw [not_not, purposeIsAttenuated_iff] at hpurpose
  rw [not_not, callLimitIsAttenuated_iff] at hlimit
  rw [not_or, not_lt, not_lt] at hvalid
  exact ⟨⟨hrights, htarget, hpurpose, hvalid.1, hvalid.2, hlimit⟩, not_le.mp hdepth⟩

end Nlos.Capability
