import PortalNat.Session.Tuple

/-!
# Spellings of an address

An IPv4 address has a second spelling among the IPv6 addresses, and flows are kept under that one.
An address that is not such a spelling comes back from a flow as it was.
-/

namespace PortalNat

/-- Whether an address is the IPv6 spelling of an IPv4 address. -/
def Address.IsMapped : Address → Prop
  | v4 _ => False
  | v6 address => address.unmapped?.isSome

instance : DecidablePred Address.IsMapped
  | .v4 _ => inferInstanceAs (Decidable False)
  | .v6 address => inferInstanceAs (Decidable (address.unmapped?.isSome = true))

theorem Address.canonical_of_not_isMapped {address : Address} (hplain : ¬address.IsMapped) :
    address.canonical = address := by
  cases address with
  | v4 address => rfl
  | v6 address =>
      have hnone : address.unmapped? = none := Option.not_isSome_iff_eq_none.1 hplain
      rw [canonical, hnone]
      rfl

/-- Only an address that is such a spelling changes in canonical form. -/
theorem Address.canonical_eq_self_iff {address : Address} :
    address.canonical = address ↔ ¬address.IsMapped := by
  refine ⟨?_, canonical_of_not_isMapped⟩
  intro hsame hmapped
  cases address with
  | v4 address => exact hmapped
  | v6 address =>
      obtain ⟨plain, hplain⟩ := Option.isSome_iff_exists.1 hmapped
      rw [canonical, hplain] at hsame
      cases hsame

/-- An IPv4 address has one such spelling. -/
theorem V6.mapped_of_unmapped? {address : V6} {plain : V4}
    (hplain : address.unmapped? = some plain) : plain.mapped = address := by
  rw [unmapped?] at hplain
  split at hplain
  · next hhigh =>
      cases hplain
      simp only [segments, List.take_succ_cons, List.take_zero, List.cons.injEq, and_true] at hhigh
      obtain ⟨hfirst, hsecond, hthird, hfourth, hfifth, hsixth⟩ := hhigh
      cases address
      simp only [V4.mapped, Octets.joinWord_ofWord, mk.injEq, and_true]
      exact ⟨hfirst.symm, hsecond.symm, hthird.symm, hfourth.symm, hfifth.symm, hsixth.symm⟩
  · cases hplain

namespace Tuple

/-- A flow tells each of its addresses in canonical form. -/
theorem narrow_widen_eq (address : Address) : narrow (widen address) = address.canonical := by
  cases address with
  | v4 address => exact narrow_widen_v4 address
  | v6 address => rfl

theorem narrow_widen {address : Address} (hplain : ¬address.IsMapped) :
    narrow (widen address) = address :=
  (narrow_widen_eq address).trans (Address.canonical_of_not_isMapped hplain)

theorem widen_canonical (address : Address) : widen address.canonical = widen address := by
  cases address with
  | v4 address => rfl
  | v6 address =>
      rw [Address.canonical]
      cases hplain : address.unmapped? with
      | none => rfl
      | some plain => exact V6.mapped_of_unmapped? hplain

/-- Two segments belong to one flow when their ends are the same in canonical form. -/
theorem of_eq_of_iff (source destination client server : Endpoint) :
    of source destination = of client server ↔
      source.canonical = client.canonical ∧ destination.canonical = server.canonical := by
  constructor
  · intro hflow
    have hsource := congrArg Tuple.source hflow
    have hdestination := congrArg Tuple.destination hflow
    simp only [Tuple.source, Tuple.destination, of, narrow_widen_eq] at hsource hdestination
    exact ⟨hsource, hdestination⟩
  · rintro ⟨hsource, hdestination⟩
    have hfrom (endpoint : Endpoint) :
        widen endpoint.address = widen endpoint.canonical.address :=
      (widen_canonical endpoint.address).symm
    have hport (endpoint : Endpoint) : endpoint.port = endpoint.canonical.port := rfl
    rw [of, of, hfrom source, hfrom destination, hport source, hport destination, hsource,
      hdestination, ← hfrom, ← hfrom]
    rfl

end Tuple

end PortalNat
