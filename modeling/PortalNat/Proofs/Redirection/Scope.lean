import PortalNat.Proofs.Redirection.Service

/-!
# What the scope leaves out

A whole packet that goes to no portal is filtered out exactly when its version of IP is disabled or
the scope leaves its destination out. The scope goes by the address as it is spelled, so an IPv4
address in its IPv6 spelling is left out by the ranges that name it in that spelling, and by nothing
else.
-/

namespace PortalNat

/-- A scope leaves an address out: it cannot belong to one remote peer, or a range is bypassed in
which it lies. -/
def Scope.Excludes (scope : Scope) (address : Address) : Prop :=
  address.isSpecial = true ∨ ∃ range ∈ scope.bypass, range.contains address = true

theorem Scope.allows_eq_false_iff {scope : Scope} {destination : Address}
    (hforeign : scope.isPortal destination = false) :
    scope.allows destination = false ↔ scope.Excludes destination := by
  rw [allows, hforeign, Bool.false_or, Bool.and_eq_false_iff, Bool.not_eq_false',
    Bool.not_eq_false', List.any_eq_true]
  rfl

theorem Address.isSpecial_of_isMapped {address : Address} (hmapped : address.IsMapped) :
    address.isSpecial = false := by
  cases address with
  | v4 address => exact hmapped.elim
  | v6 address =>
      obtain ⟨plain, hplain⟩ := Option.isSome_iff_exists.1 hmapped
      rw [← V6.mapped_of_unmapped? hplain]
      simp [isSpecial, V4.mapped, V6.isMulticast, V6.isLinkLocal, V6.unspecified, V6.loopback,
        V6.ofSegments]

/-! ## Filtering -/

section

variable {rules : Rules} {table : SessionTable} {stopped : Bool} {bytes : Octets} {packet : Packet}
  {now : Nat}

/-- A segment whose version of IP is enabled is not dropped as filtered. -/
theorem Redirector.Routed.ne_filtered {redirector : Redirector} {result : Except NatError Route}
    {after : SessionTable} (hrouted : redirector.Routed table stopped packet now result after)
    (henabled : redirector.portal.enabled packet.family = true) (report? : Option NatError) :
    Verdict.ofRedirection (result.bind packet.follow) ≠ .drop .filtered report? := by
  intro hfiltered
  cases hrouted with
  | malformed | stray | unknownPort => cases hfiltered
  | disabled hdisabled =>
      rw [henabled] at hdisabled
      cases hdisabled
  | refused htakes hforeign hlookup =>
      rcases portFor_error_cases hlookup with ⟨-, rfl | rfl⟩ | ⟨-, rfl⟩ <;> cases hfiltered
  | outbound | reply =>
      exact ofRedirection_follow_ne_drop packet _ (by decide) report? hfiltered

theorem Rules.judge_of_not_admits (hparse : Packet.parse bytes = .ok packet)
    (hwhole : packet.isFragment = false) (hrefused : rules.admits packet = false) :
    rules.judge table stopped bytes now = (.drop .filtered none, table) := by
  simp only [judge, hparse, hwhole, hrefused, Bool.not_false, Bool.false_eq_true, if_true, if_false]

/-- A whole packet is dropped as filtered exactly when the rules do not let it in. -/
theorem Rules.judge_eq_filtered_iff (hparse : Packet.parse bytes = .ok packet)
    (hwhole : packet.isFragment = false) :
    (rules.judge table stopped bytes now).1 = .drop .filtered none ↔
      rules.admits packet = false := by
  obtain ⟨verdict, after, hjudge, hjudged⟩ := rules.judged table stopped bytes now
  rw [hjudge]
  have hsame {other : Packet} (hother : Packet.parse bytes = .ok other) : other = packet := by
    rw [hparse] at hother
    cases hother
    rfl
  -- A packet that is let in gets another verdict, whatever its protocol is.
  have hletIn {other : Packet} {verdict : Verdict} (hadmitted : rules.Admitted bytes other)
      (hverdict : verdict ≠ .drop .filtered none) :
      verdict = .drop .filtered none ↔ rules.admits packet = false := by
    rw [← hsame hadmitted.parse, hadmitted.admits]
    exact iff_of_false hverdict (by decide)
  cases hjudged with
  | unread hunread =>
      rw [hparse] at hunread
      cases hunread
  | fragment hfragmentParse hfragment =>
      rw [hsame hfragmentParse, hwhole] at hfragment
      cases hfragment
  | excluded hexcludedParse _ hexcluded =>
      rw [hsame hexcludedParse] at hexcluded
      exact iff_of_true rfl hexcluded
  | segment hadmitted hprotocol hrouted =>
      exact hletIn hadmitted
        (hrouted.ne_filtered (Bool.and_eq_true_iff.1 hadmitted.admits).1 none)
  | datagram hadmitted =>
      apply hletIn hadmitted
      intro hfiltered
      rw [Verdict.ofDatagram] at hfiltered
      split at hfiltered <;> cases hfiltered
  | control hadmitted =>
      apply hletIn hadmitted
      intro hfiltered
      rw [Verdict.ofControl] at hfiltered
      split at hfiltered <;> cases hfiltered
  | unsupported hadmitted =>
      apply hletIn hadmitted
      intro hfiltered
      cases hfiltered

end

/-- On reading some octets a translator drops them as filtered: it counts that and does nothing
else. -/
structure Translator.FiltersOut (translator : Translator) (bytes : Octets) (now : Nat) : Prop where
  verdict : (translator.rules.judge translator.sessions translator.stopped bytes now).1 =
    .drop .filtered none
  process : translator.process bytes now = translator.record (.dropped .filtered)

theorem Translator.filtersOut_iff_not_admits {translator : Translator} {bytes : Octets}
    {packet : Packet} {now : Nat} (hparse : Packet.parse bytes = .ok packet)
    (hwhole : packet.isFragment = false) :
    translator.FiltersOut bytes now ↔ translator.rules.admits packet = false := by
  constructor
  · intro hfilters
    exact (Rules.judge_eq_filtered_iff hparse hwhole).1 hfilters.verdict
  · intro hrefused
    have hjudge : translator.rules.judge translator.sessions translator.stopped bytes now = _ :=
      Rules.judge_of_not_admits hparse hwhole hrefused
    refine ⟨congrArg Prod.fst hjudge, ?_⟩
    rw [process, hjudge]
    rfl

/-- A packet that goes to no portal is dropped as a fragment if it is one. If it is whole, it is
dropped as filtered exactly when its version of IP is disabled or the scope leaves out its
destination as it is spelled. What an IPv4 address in its IPv6 spelling stands for plays no part in
that: it is left out only by a range that names it in this spelling. -/
theorem filtersOut_iff_excludes (translator : Translator) {bytes : Octets} {packet : Packet}
    (now : Nat) (hparse : Packet.parse bytes = .ok packet)
    (hforeign : translator.rules.scope.isPortal packet.destination = false) :
    (packet.isFragment = true →
        translator.process bytes now = translator.record (.dropped .fragmented)) ∧
      (packet.isFragment = false →
        (translator.FiltersOut bytes now ↔
          translator.rules.redirector.portal.enabled packet.family = false ∨
            translator.rules.scope.Excludes packet.destination)) ∧
      (packet.destination.IsMapped →
        (translator.rules.scope.Excludes packet.destination ↔
          ∃ range ∈ translator.rules.scope.bypass,
            range.contains packet.destination = true)) := by
  refine ⟨?_, ?_, ?_⟩
  · intro hfragment
    simp only [Translator.process, Rules.judge, hparse, hfragment, if_true]
    rfl
  · intro hwhole
    rw [Translator.filtersOut_iff_not_admits hparse hwhole, Rules.admits, Bool.and_eq_false_iff,
      Scope.allows_eq_false_iff hforeign]
  · intro hmapped
    rw [Scope.Excludes, Address.isSpecial_of_isMapped hmapped]
    simp only [Bool.false_eq_true, false_or]

/-- A client asks the loopback address of the translator's own host for a connection. -/
def loopbackRequest : Octets :=
  [0x45, 0, 0, 40, 0, 0, 0x40, 0, 64, 6, 0, 0, 10, 0, 0, 2, 127, 0, 0, 1,
    0xc7, 0x38, 0, 22, 0, 0, 0, 1, 0, 0, 0, 0, 0x50, 2, 0xff, 0xff, 0, 0, 0, 0]

def mappedLoopbackRequest : Octets :=
  [0x60, 0, 0, 0, 0, 20, 6, 64, 0xfd, 0, 0, 0, 0, 0, 0, 0, 0, 0, 0, 0, 0, 0, 0, 2,
    0, 0, 0, 0, 0, 0, 0, 0, 0, 0, 0xff, 0xff, 127, 0, 0, 1,
    0xc7, 0x38, 0, 22, 0, 0, 0, 1, 0, 0, 0, 0, 0x50, 2, 0xff, 0xff, 0, 0, 0, 0]

theorem filtersOut_iff_excludes_loopbackRequest :
    Packet.parse loopbackRequest = .ok ⟨.v4, loopbackRequest⟩ ∧
      sampleEngine.translator.rules.scope.isPortal (.v4 ⟨127, 0, 0, 1⟩) = false ∧
      sampleEngine.translator.FiltersOut loopbackRequest 1 := by
  have hparse : Packet.parse loopbackRequest = .ok ⟨.v4, loopbackRequest⟩ := rfl
  have hforeign : sampleEngine.translator.rules.scope.isPortal (.v4 ⟨127, 0, 0, 1⟩) = false := rfl
  obtain ⟨-, hwhole, -⟩ :=
    filtersOut_iff_excludes sampleEngine.translator 1 hparse hforeign
  exact ⟨hparse, hforeign, (hwhole rfl).2 (.inr (.inl rfl))⟩

set_option maxRecDepth 20000 in
/-- The loopback address is out of scope, and still a request for it in its IPv6 spelling is
redirected and gets a session. -/
theorem mapped_loopback_redirected :
    let translator := sampleEngine.translator
    let packet : Packet := ⟨.v6, mappedLoopbackRequest⟩
    Engine.start {} {} 5000 9000 = .ok sampleEngine ∧
      Packet.parse mappedLoopbackRequest = .ok packet ∧
      translator.rules.scope.isPortal packet.destination = false ∧
      translator.rules.scope.Excludes packet.destination.canonical ∧
      ¬translator.FiltersOut mappedLoopbackRequest 1 ∧
      (∃ written, translator.Writes mappedLoopbackRequest 1 .redirected written) ∧
      (translator.process mappedLoopbackRequest 1).sessions.byTuple[packet.flow]? = some 5000 := by
  have hparse : Packet.parse mappedLoopbackRequest = .ok ⟨.v6, mappedLoopbackRequest⟩ := rfl
  have hadmits : sampleEngine.translator.rules.admits ⟨.v6, mappedLoopbackRequest⟩ = true := rfl
  have hcarries : Carries mappedLoopbackRequest ⟨.v6, mappedLoopbackRequest⟩
      (Endpoint.of (.v6 ⟨0xfd00, 0, 0, 0, 0, 0, 0, 2⟩) 51000)
      (Endpoint.of (.v6 ⟨0, 0, 0, 0, 0, 0xffff, 0x7f00, 1⟩) 22) := by
    constructor <;> rfl
  obtain ⟨after, hlookup⟩ : ∃ after, Redirector.portFor sampleEngine.translator.sessions
      (Packet.flow ⟨.v6, mappedLoopbackRequest⟩) true false 1 = (.ok 5000, after) := by
    refine ⟨_, Prod.ext ?_ rfl⟩
    cbv
  obtain ⟨written, hjudge, -⟩ := judge_outbound hcarries hadmits (by decide) hlookup
  refine ⟨rfl, hparse, rfl, .inl rfl, ?_, ⟨written, ?_⟩, ?_⟩
  · rw [Translator.filtersOut_iff_not_admits hparse rfl, hadmits]
    decide
  · rw [Translator.writes_iff]
    exact congrArg Prod.fst hjudge
  · rw [Translator.sessions_process]
    exact (congrArg (·.2.byTuple[_]?) hjudge).trans (Redirector.byTuple_portFor hlookup)

end PortalNat
