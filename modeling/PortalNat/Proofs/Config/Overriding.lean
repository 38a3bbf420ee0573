import PortalNat.Config.File
import PortalNat.Proofs.Config.Rules

/-!
# Overriding what a file says

A configuration is loaded from a file and then overridden by the environment. The rules are checked
twice: on the file as it stands, and on what comes of the overrides. The main statement says what is
loaded from a file that can be read, and which error is reported otherwise. The first check is where
it differs from the overrides alone: a file that breaks a rule is refused even if an override would
mend it, which only happens with rules about the packet size and the choice of the device.
-/

namespace PortalNat

/-! ## What can be overridden -/

/-- A rule about something that the environment can override. -/
def Invalid.Overridable : Invalid → Prop
  | .mtuOutOfRange _ | .descriptorNegative _ | .noDevice | .deviceNameLength _ => True
  | _ => False

/-- Where the other rules are kept, only the packet size can be wrong. -/
theorem NatSection.Sound.overridable {settings : NatSection} (hsound : settings.Sound)
    {reason : Invalid} (hvalidate : settings.validate = .error reason) : reason.Overridable := by
  unfold validate at hvalidate
  simp only [Except.bind_eq_error_iff, refuseIf_eq_error_iff] at hvalidate
  rcases hvalidate with ⟨hv4, -⟩ | ⟨-, -, ⟨hv6, -⟩ | ⟨-, -, ⟨-, rfl⟩ | ⟨-, -, ⟨hports, -⟩ |
    ⟨-, -, ⟨hsweep, -⟩ | ⟨-, -, ⟨hreaders, -⟩ | ⟨-, -, ⟨htimeout, -⟩ | ⟨-, -, hlistener⟩⟩⟩⟩⟩⟩⟩
  · exact absurd hv4 hsound.portalV4
  · exact absurd hv6.2 (hsound.portalV6 hv6.1)
  · trivial
  · rcases hports with hzero | hempty
    · exact absurd hzero hsound.ports.1
    · exact absurd hempty (UInt16.not_lt.2 hsound.ports.2)
  · exact absurd hsweep hsound.sweep
  · exact absurd hreaders.2 (hsound.readers hreaders.1)
  · exact absurd htimeout hsound.timeout
  · split at hlistener
    case h_1 listener hsome =>
      have hdisabled := (refuseIf_eq_error_iff.1 hlistener).1
      rw [hsound.listener listener hsome] at hdisabled
      cases hdisabled
    case h_2 => cases hlistener

/-- Everything about the device can be overridden. -/
theorem DeviceSection.overridable {settings : DeviceSection} {reason : Invalid}
    (hvalidate : settings.validate = .error reason) : reason.Overridable := by
  unfold validate at hvalidate
  split at hvalidate
  · rw [← (refuseIf_eq_error_iff.1 hvalidate).2]
    trivial
  · cases hvalidate
    trivial
  · rw [← (refuseIf_eq_error_iff.1 hvalidate).2]
    trivial

/-! ## Overrides -/

namespace Environment

variable {environment : Environment} {Value : Type} {name what : String}
  {parse? : String → Option Value}

/-- The variable holds this value, or it is not set and there is none. -/
def Gives (environment : Environment) (name : String) (parse? : String → Option Value)
    (value? : Option Value) : Prop :=
  (environment name).map parse? = value?.map some

theorem number_eq_ok_iff {value? : Option Value} :
    environment.number name what parse? = .ok value? ↔ environment.Gives name parse? value? := by
  unfold number Gives
  cases environment name with
  | none => cases value? <;> simp
  | some text => cases hparse : parse? text <;> cases value? <;> simp [hparse]

theorem number_eq_error_iff {error : ConfigError} :
    environment.number name what parse? = .error error ↔
      ∃ text, environment name = some text ∧ parse? text = none ∧
        error = .environment name s!"Invalid {what}: {text}" := by
  unfold number
  cases environment name with
  | none => simp
  | some text => cases hparse : parse? text <;> simp [hparse, eq_comm]

end Environment

namespace Config

/-- The second configuration is the first one with what the environment sets in its place. -/
structure Overridden (environment : Environment) (config merged : Config) : Prop where
  descriptor : ∃ value?, environment.Gives Environment.descriptorName Environment.signed? value? ∧
    merged.device.descriptor? = value?.or config.device.descriptor?
  name : merged.device.name? = (environment Environment.deviceName).or config.device.name?
  level : merged.log.level = (environment Environment.logLevelName).getD config.log.level
  mtu : ∃ value?, environment.Gives Environment.mtuName Environment.unsigned? value? ∧
    merged.nat.mtu = value?.getD config.nat.mtu
  restOfNat : merged.nat = { config.nat with mtu := merged.nat.mtu }
  restOfLog : merged.log = { config.log with level := merged.log.level }

/-- The errors that the overrides can bring: the descriptor is no number, the packet size is none,
or what comes of the overrides breaks a rule. -/
inductive Refused (environment : Environment) (config : Config) : ConfigError → Prop
  | descriptor {text : String} (htext : environment Environment.descriptorName = some text)
      (hparse : Environment.signed? text = none) :
      Refused environment config
        (.environment Environment.descriptorName s!"Invalid file descriptor: {text}")
  | mtu {value? : Option Int32} {text : String}
      (hdescriptor : environment.Gives Environment.descriptorName Environment.signed? value?)
      (htext : environment Environment.mtuName = some text)
      (hparse : Environment.unsigned? text = none) :
      Refused environment config (.environment Environment.mtuName s!"Invalid number: {text}")
  | merged {merged : Config} {reason : Invalid} (hmerged : config.Overridden environment merged)
      (hreason : merged.validate = .error reason) :
      Refused environment config (.validation reason)

variable {environment : Environment} {config merged : Config}

theorem overridden_iff :
    config.Overridden environment merged ↔
      ∃ overrides,
        Overrides.read environment = .ok overrides ∧ overrides.apply config = merged := by
  simp only [Overrides.read, Except.bind_eq_ok_iff, Environment.number_eq_ok_iff]
  constructor
  · rintro ⟨⟨descriptor?, hdescriptor, hmerged⟩, hname, hlevel, ⟨mtu?, hmtu, hsize⟩, hnat, hlog⟩
    refine ⟨⟨descriptor?, _, _, mtu?⟩, ⟨descriptor?, hdescriptor, mtu?, hmtu, rfl⟩, ?_⟩
    rcases merged with ⟨nat, ⟨_, _⟩, log⟩
    simp only at hmerged hname hlevel hsize hnat hlog
    rw [hnat, hlog, hmerged, hname, hlevel, hsize, Overrides.apply]
  · rintro ⟨overrides, ⟨descriptor?, hdescriptor, mtu?, hmtu, hread⟩, rfl⟩
    cases hread
    exact ⟨⟨descriptor?, hdescriptor, rfl⟩, rfl, rfl, ⟨mtu?, hmtu, rfl⟩, rfl, rfl⟩

theorem check_eq_ok_iff {passed : Unit} : config.check = .ok passed ↔ config.validate = .ok () := by
  unfold check
  cases config.validate <;> simp [Except.mapError]

theorem check_eq_error_iff {error : ConfigError} :
    config.check = .error error ↔
      ∃ reason, config.validate = .error reason ∧ error = .validation reason := by
  unfold check
  cases config.validate <;> simp [Except.mapError, eq_comm]

/-- The overrides succeed exactly with a configuration that is overridden as the environment says
and keeps the rules. -/
theorem override_eq_ok_iff :
    config.override environment = .ok merged ↔
      config.Overridden environment merged ∧ merged.validate = .ok () := by
  simp only [override, Except.bind_eq_ok_iff, overridden_iff, check_eq_ok_iff]
  constructor
  · rintro ⟨overrides, hread, -, hvalidate, happly⟩
    cases happly
    exact ⟨⟨overrides, hread, rfl⟩, hvalidate⟩
  · rintro ⟨⟨overrides, hread, rfl⟩, hvalidate⟩
    exact ⟨overrides, hread, (), hvalidate, rfl⟩

theorem override_eq_error_iff {error : ConfigError} :
    config.override environment = .error error ↔ config.Refused environment error := by
  simp only [override, Except.bind_eq_error_iff, check_eq_error_iff]
  constructor
  · rintro (hread | ⟨overrides, hread, ⟨reason, hreason, rfl⟩ | ⟨-, -, hreturn⟩⟩)
    · simp only [Overrides.read, Except.bind_eq_error_iff, Environment.number_eq_error_iff,
        Environment.number_eq_ok_iff] at hread
      rcases hread with ⟨text, htext, hparse, rfl⟩ |
        ⟨descriptor?, hdescriptor, ⟨text, htext, hparse, rfl⟩ | ⟨_, -, hreturn⟩⟩
      · exact .descriptor htext hparse
      · exact .mtu hdescriptor htext hparse
      · cases hreturn
    · exact .merged (overridden_iff.2 ⟨overrides, hread, rfl⟩) hreason
    · cases hreturn
  · rintro (⟨htext, hparse⟩ | ⟨hdescriptor, htext, hparse⟩ | ⟨hmerged, hreason⟩)
    · left
      simp only [Overrides.read, Except.bind_eq_error_iff, Environment.number_eq_error_iff]
      exact .inl ⟨_, htext, hparse, rfl⟩
    · left
      simp only [Overrides.read, Except.bind_eq_error_iff, Environment.number_eq_error_iff,
        Environment.number_eq_ok_iff]
      exact .inr ⟨_, hdescriptor, .inl ⟨_, htext, hparse, rfl⟩⟩
    · obtain ⟨overrides, hread, rfl⟩ := overridden_iff.1 hmerged
      exact .inr ⟨overrides, hread, .inl ⟨_, hreason, rfl⟩⟩

/-- If the overrides mend a configuration, it broke a rule about something they can override. -/
theorem Overridden.overridable (hmerged : config.Overridden environment merged)
    (hvalid : merged.validate = .ok ()) {reason : Invalid}
    (hbroken : config.validate = .error reason) : reason.Overridable := by
  unfold validate at hvalid hbroken
  simp only [Except.bind_eq_ok_iff] at hvalid
  obtain ⟨_, hnat, _, -, hlog⟩ := hvalid
  simp only [Except.bind_eq_error_iff] at hbroken
  rcases hbroken with hbroken | ⟨-, -, hbroken | ⟨-, -, hbroken⟩⟩
  · have hsound := NatSection.sound_of_validate hnat
    rw [hmerged.restOfNat] at hsound
    exact hsound.of_mtu.overridable hbroken
  · exact DeviceSection.overridable hbroken
  · -- The format of the log is the same in both.
    rw [hmerged.restOfLog] at hlog
    rw [show config.log.validate = .ok () from hlog] at hbroken
    cases hbroken

/-! ## Loading -/

/-- What is loaded from a file that holds a configuration. -/
structure Loads (environment : Environment) (config : Config)
    (outcome : Except ConfigError Config) : Prop where
  /-- Loading succeeds exactly if the file keeps the rules, the numbers can be read and what comes
  of the overrides keeps the rules, and this is what is loaded. -/
  accepted : ∀ merged, outcome = .ok merged ↔
    config.validate = .ok () ∧ config.Overridden environment merged ∧ merged.validate = .ok ()
  /-- A rule that the file breaks is reported whatever the environment sets. -/
  refused : ∀ error, outcome = .error error ↔
    (∃ reason, config.validate = .error reason ∧ error = .validation reason) ∨
      config.validate = .ok () ∧ config.Refused environment error
  /-- The overrides decide exactly where they do not mend a rule that the file breaks. -/
  decided : outcome = config.override environment ↔
    ∀ reason, config.validate = .error reason → config.Refused environment (.validation reason)
  /-- A configuration that the overrides alone would make is refused because of a rule about
  something they override. -/
  mended : ∀ reason merged, config.validate = .error reason →
    config.override environment = .ok merged → reason.Overridable

theorem holds_of_readText {files : FileStore} {path text : String}
    (hread : files.readText path = .ok text) : files.holds path = true := by
  obtain ⟨content, hcontent, -⟩ := Except.bind_eq_ok_iff.1 hread
  obtain ⟨place, hplace, hnode⟩ := Except.bind_eq_ok_iff.1 hcontent
  cases hstands : files.node? place with
  | none =>
      rw [hstands] at hnode
      cases hnode
  | some node => simp only [FileStore.holds, hplace, hstands, Option.isSome_some]

variable {files : FileStore} {path text : String}

/-- A file that holds a configuration is checked before anything is overridden. -/
theorem loadWith_eq (hread : files.readText path = .ok text)
    (hparse : Config.parse? text = some config) (environment : Environment) :
    loadWith environment files path = config.check >>= fun _ => config.override environment := by
  have hload : load text = config.check >>= fun _ => .ok config := by
    rw [load, hparse]
    rfl
  have hfile : loadFile files path = load text := by
    rw [loadFile, holds_of_readText hread, hread]
    rfl
  rw [loadWith, hfile, hload]
  cases config.check <;> rfl

/-- Loading from any file that holds a configuration, whatever the environment sets. -/
theorem loadWith_loads (hread : files.readText path = .ok text)
    (hparse : Config.parse? text = some config) (environment : Environment) :
    config.Loads environment (loadWith environment files path) := by
  rw [loadWith_eq hread hparse]
  have haccepted (merged : Config) :
      (config.check >>= fun _ => config.override environment) = .ok merged ↔
        config.validate = .ok () ∧ config.Overridden environment merged ∧
          merged.validate = .ok () := by
    simp only [Except.bind_eq_ok_iff, check_eq_ok_iff, override_eq_ok_iff, exists_const]
  have hrefused (error : ConfigError) :
      (config.check >>= fun _ => config.override environment) = .error error ↔
        (∃ reason, config.validate = .error reason ∧ error = .validation reason) ∨
          config.validate = .ok () ∧ config.Refused environment error := by
    simp only [Except.bind_eq_error_iff, check_eq_error_iff, check_eq_ok_iff,
      override_eq_error_iff, exists_const]
  refine ⟨haccepted, hrefused, ?_, ?_⟩
  · cases hvalidate : config.validate with
    | ok =>
        have hcheck : config.check = .ok () := check_eq_ok_iff.2 hvalidate
        rw [hcheck]
        exact iff_of_true rfl (fun reason hbroken => by cases hbroken)
    | error reason =>
        have hcheck : config.check = .error (.validation reason) :=
          check_eq_error_iff.2 ⟨reason, hvalidate, rfl⟩
        rw [hcheck]
        constructor
        · rintro hsame other ⟨⟩
          exact override_eq_error_iff.1 hsame.symm
        · exact fun hrefused => (override_eq_error_iff.2 (hrefused reason rfl)).symm
  · intro reason merged hbroken hmerged
    obtain ⟨hoverridden, hvalid⟩ := override_eq_ok_iff.1 hmerged
    exact hoverridden.overridable hvalid hbroken

def bare : FileStore :=
  ⟨[(["c"], .file [0x7b, 0x7d])]⟩

theorem readText_bare : bare.readText "c" = .ok "\x7b\x7d" := by
  have hsplit : "c".splitOn "/" = ["c"] := by
    unfold String.splitOn
    rw [if_neg (by decide)]
    iterate 2 unfold String.splitOnAux
    decide
  have hnames : FileStore.names "c" = .ok ["c"] := by
    unfold FileStore.names
    rw [String.contains_char_eq, if_neg (by decide), if_neg (by decide), if_neg (by decide),
      hsplit]
    rfl
  have hread : bare.read "c" = .ok [0x7b, 0x7d] := by
    unfold FileStore.read FileStore.locate
    rw [hnames]
    rfl
  have hvalid : ByteArray.IsValidUTF8 ⟨#[0x7b, 0x7d]⟩ := String.isValidUTF8 "\x7b\x7d"
  have htext : String.fromUTF8? ⟨#[0x7b, 0x7d]⟩ = some "\x7b\x7d" := by
    rw [String.fromUTF8?, dif_pos hvalid]
    rfl
  simp only [FileStore.readText, hread, bind, Except.bind]
  rw [htext]
  rfl

def descriptorNine : Environment := fun name =>
  if name = Environment.descriptorName then some "9" else none

theorem loadWith_loads_bare :
    bare.readText "c" = .ok "\x7b\x7d" ∧ Config.parse? "\x7b\x7d" = some {} ∧
      Config.Loads descriptorNine {} (loadWith descriptorNine bare "c") :=
  ⟨readText_bare, rfl, loadWith_loads readText_bare rfl descriptorNine⟩

/-- What comes of the overrides keeps the rules, but the file is refused for want of the device that
they name. -/
theorem bare_refused :
    bare.readText "c" = .ok "\x7b\x7d" ∧ Config.parse? "\x7b\x7d" = some {} ∧
      ({} : Config).Overridden descriptorNine { device := { descriptor? := some 9 } } ∧
      ({ device := { descriptor? := some 9 } } : Config).validate = .ok () ∧
      loadWith descriptorNine bare "c" = .error (.validation .noDevice) := by
  refine ⟨readText_bare, rfl, ?_, rfl, ?_⟩
  · exact ⟨⟨some 9, rfl, rfl⟩, rfl, rfl, ⟨none, rfl, rfl⟩, rfl, rfl⟩
  · have hparse : Config.parse? "\x7b\x7d" = some {} := rfl
    rw [loadWith_eq readText_bare hparse]
    rfl

end Config

end PortalNat
