import Mathlib.Tactic
import PortalNat.Config.Validate

/-!
# Rules of a configuration

Rules are checked one after the other, and the first one that is broken ends the check. This module
says what a check that passes shows, and separates the rules about the packet size from the others.
-/

namespace PortalNat

/-! ## Checks -/

section

variable {Failure Value Result : Type}

theorem Except.bind_eq_ok_iff {first : Except Failure Value} {next : Value → Except Failure Result}
    {result : Result} :
    first >>= next = .ok result ↔ ∃ value, first = .ok value ∧ next value = .ok result := by
  cases first <;> simp [bind, Except.bind]

theorem Except.bind_eq_error_iff {first : Except Failure Value}
    {next : Value → Except Failure Result} {failure : Failure} :
    first >>= next = .error failure ↔
      first = .error failure ∨ ∃ value, first = .ok value ∧ next value = .error failure := by
  cases first <;> simp [bind, Except.bind]

theorem refuseIf_eq_ok_iff {broken : Prop} [Decidable broken] {reason : Invalid} {passed : Unit} :
    refuseIf broken reason = .ok passed ↔ ¬broken := by
  unfold refuseIf
  split_ifs with hbroken <;> simp [hbroken]

theorem refuseIf_eq_error_iff {broken : Prop} [Decidable broken] {reason other : Invalid} :
    refuseIf broken reason = .error other ↔ broken ∧ reason = other := by
  unfold refuseIf
  split_ifs with hbroken <;> simp [hbroken]

end

namespace NatSection

/-- The rules that say nothing about the packet size. -/
structure Sound (settings : NatSection) : Prop where
  portalV4 : settings.portalV4 ≠ settings.gatewayV4
  portalV6 : settings.ipv6Enabled = true → settings.portalV6 ≠ settings.gatewayV6
  ports : settings.sessionPorts.1 ≠ 0 ∧ settings.sessionPorts.1 ≤ settings.sessionPorts.2
  sweep : settings.sweepIntervalMillis ≠ 0
  readers : settings.udpMode = .pull → settings.udpReaders ≠ 0
  timeout : settings.udpTimeoutSeconds ≠ 0
  listener : ∀ listener, settings.listenerV6? = some listener → settings.ipv6Enabled = true

theorem Sound.of_mtu {settings : NatSection} {mtu : UInt32}
    (hsound : ({ settings with mtu } : NatSection).Sound) : settings.Sound :=
  ⟨hsound.portalV4, hsound.portalV6, hsound.ports, hsound.sweep, hsound.readers, hsound.timeout,
    hsound.listener⟩

theorem sound_of_validate {settings : NatSection} {passed : Unit}
    (hvalidate : settings.validate = .ok passed) : settings.Sound := by
  unfold validate at hvalidate
  simp only [Except.bind_eq_ok_iff, refuseIf_eq_ok_iff] at hvalidate
  obtain ⟨-, hv4, -, hv6, -, -, -, hports, -, hsweep, -, hreaders, -, htimeout, hlistener⟩ :=
    hvalidate
  rw [not_or, UInt16.not_lt] at hports
  refine ⟨hv4, not_and.1 hv6, hports, hsweep, not_and.1 hreaders, htimeout, ?_⟩
  intro listener hsome
  simpa only [hsome, refuseIf_eq_ok_iff, Bool.not_eq_false] using hlistener

end NatSection

end PortalNat
