import Switchboard.Proofs.Config.Faults
import Switchboard.Proofs.Gateway.Slots

/-!
# Startup — what a server is started with, and when it is refused

Settings come as texts and numbers. If every text is well-formed they are carried over field by
field (`Settings.Carried`); what they cannot set is as usual, so that nothing but a port can be
wrong with the configuration that they make. A text that is not well-formed is looked at before
the ports are, and a start is refused for it whatever the ports say.
-/

namespace Switchboard.Gateway

variable {g : Gateway} {t : CText} {s : Settings} {c : Config} {field : Option String}

/-! ## From settings to a configuration -/

/-- The field is what the text says: nothing if the text is null or empty, and otherwise just
its characters. -/
structure CText.Says (t : CText) (field : Option String) : Prop where
  unset : field = none ↔ t = none ∨ t = some []
  set : ∀ text, field = some text ↔ text ≠ "" ∧ t = some (Utf8.encode text)

/-- The configuration has what the settings say, and what they do not speak of is as usual. -/
structure Settings.Carried (s : Settings) (c : Config) : Prop where
  storagePath : s.storagePath.Says c.storagePath
  cachePath : s.cachePath.Says c.cachePath
  engineSocketPath : s.engineSocketPath.Says c.engine.socketPath
  engineTcpPort : s.engineTcpPort.Says c.engine.tcpPort
  viewSocketPath : s.viewSocketPath.Says c.view.socketPath
  viewTcpPort : s.viewTcpPort.Says c.view.tcpPort
  token : s.token.Says c.token
  enableCache : c.enableCache = true ↔ s.enableCache = 1
  streamTimeout : ∀ d, c.streamTimeout = some d ↔
    0 < s.streamTimeoutMillis ∧ (d.nanos : Int) = s.streamTimeoutMillis * 1000000
  usual : c.reverseCallTimeout = .ofSeconds 10 ∧ c.reaperInterval = .ofMillis 50 ∧
    c.inputQueueCapacity = 100

theorem says_of_optional (h : t.optional = .ok field) : t.Says field := by
  cases t with
  | none =>
    cases h
    exact ⟨by simp, by simp⟩
  | some bs =>
    unfold CText.optional at h
    cases hdecode : Utf8.decode? bs with
    | none =>
      simp only [hdecode] at h
      cases h
    | some text =>
      simp only [hdecode] at h
      cases h
      obtain rfl := Utf8.encode_of_decode? hdecode
      have hsame : ∀ other, Utf8.encode text = Utf8.encode other ↔ text = other := fun other =>
        ⟨Utf8.encode_injective, congrArg Utf8.encode⟩
      have hnil : Utf8.encode text = [] ↔ text = "" := hsame ""
      by_cases hempty : text = ""
      · subst hempty
        refine ⟨by simp, fun other => ?_⟩
        simp only [if_true, Option.some.injEq, hsame]
        constructor
        · nofun
        · rintro ⟨hnamed, rfl⟩
          exact absurd rfl hnamed
      · refine ⟨by simp [hnil, hempty], fun other => ?_⟩
        simp only [if_neg hempty, Option.some.injEq, hsame]
        constructor
        · rintro rfl
          exact ⟨hempty, rfl⟩
        · exact And.right

/-- What is read after another thing was read. -/
theorem exists_of_bind_ok {α β : Type} {x : Except Status α} {f : α → Except Status β} {b : β}
    (h : x >>= f = .ok b) : ∃ a, x = .ok a ∧ f a = .ok b := by
  cases x with
  | error e => cases h
  | ok a => exact ⟨a, rfl, h⟩

theorem streamTimeout_eq_some_iff (ms : Int) (c : Config) (d : Duration) :
    (c.withStreamTimeoutMillis ms).streamTimeout = some d ↔
      0 < ms ∧ (d.nanos : Int) = ms * 1000000 := by
  unfold Config.withStreamTimeoutMillis
  dsimp only
  split
  · next hpositive =>
    cases d with
    | mk nanos =>
      rw [Option.some.injEq, Duration.ofMillis, Duration.mk.injEq]
      dsimp only
      omega
  · next hnone => simp [hnone]

theorem carried_config (h : s.config = .ok c) : s.Carried c := by
  unfold Settings.config at h
  obtain ⟨storagePath, hstorage, h⟩ := exists_of_bind_ok h
  obtain ⟨cachePath, hcache, h⟩ := exists_of_bind_ok h
  obtain ⟨engineSocket, hengineSocket, h⟩ := exists_of_bind_ok h
  obtain ⟨enginePort, henginePort, h⟩ := exists_of_bind_ok h
  obtain ⟨viewSocket, hviewSocket, h⟩ := exists_of_bind_ok h
  obtain ⟨viewPort, hviewPort, h⟩ := exists_of_bind_ok h
  obtain ⟨token, htoken, h⟩ := exists_of_bind_ok h
  cases h
  exact {
    storagePath := says_of_optional hstorage
    cachePath := says_of_optional hcache
    engineSocketPath := says_of_optional hengineSocket
    engineTcpPort := says_of_optional henginePort
    viewSocketPath := says_of_optional hviewSocket
    viewTcpPort := says_of_optional hviewPort
    token := says_of_optional htoken
    enableCache := beq_iff_eq
    streamTimeout := streamTimeout_eq_some_iff s.streamTimeoutMillis _
    usual := ⟨rfl, rfl, rfl⟩ }

/-- Every text is null or the bytes of some text. -/
def Settings.WellFormed (s : Settings) : Prop := ∀ t ∈ s.texts, ¬t.Malformed

theorem Settings.not_wellFormed_iff : ¬s.WellFormed ↔ ∃ t ∈ s.texts, t.Malformed := by
  simp [WellFormed]

theorem config_eq_error_iff :
    s.config = .error .invalidArgument ↔ ∃ t ∈ s.texts, t.Malformed := by
  rcases judged_config s with ⟨hbad, herror⟩ | ⟨hfine, c, hconfig⟩
  · exact ⟨fun _ => hbad, fun _ => herror⟩
  · constructor
    · intro herror
      cases hconfig.symm.trans herror
    · intro hbad
      exact absurd hbad hfine

theorem exists_carried (h : s.WellFormed) : ∃ c, s.config = .ok c ∧ s.Carried c := by
  rcases judged_config s with ⟨hbad, -⟩ | ⟨-, c, hconfig⟩
  · exact absurd h (Settings.not_wellFormed_iff.mpr hbad)
  · exact ⟨c, hconfig, carried_config hconfig⟩

/-! ## What can be wrong with it -/

/-- The port given for a role. -/
def Settings.tcpPort (s : Settings) : Role → CText
  | .engine => s.engineTcpPort
  | .view => s.viewTcpPort

/-- A port is set, and its text is no numeral for one. -/
def Settings.PortFault (s : Settings) : Prop :=
  ∃ role text, text ≠ "" ∧ s.tcpPort role = some (Utf8.encode text) ∧ ∀ n, ¬Endpoint.Names text n

theorem Settings.not_portFault_iff :
    ¬s.PortFault ↔ ∀ role text, text ≠ "" → s.tcpPort role = some (Utf8.encode text) →
      ∃ n, Endpoint.Names text n := by
  simp only [PortFault, not_exists, not_and, not_forall, not_not]

theorem Settings.Carried.tcpPort_iff (h : s.Carried c) (role : Role) (text : String) :
    (c.endpoint role).tcpPort = some text ↔
      text ≠ "" ∧ s.tcpPort role = some (Utf8.encode text) := by
  cases role with
  | engine => exact h.engineTcpPort.set text
  | view => exact h.viewTcpPort.set text

/-- Only a port can be wrong with what settings make: the numbers are as usual. -/
theorem Settings.Carried.of_fault {e : ConfigError} (h : s.Carried c) (hfault : c.Fault e) :
    ∃ role text, e = .invalidPort role text := by
  obtain ⟨htimeout, hinterval, hcapacity⟩ := h.usual
  cases e with
  | invalidPort role text => exact ⟨role, text, rfl⟩
  | inputQueueZero =>
    have hzero : c.inputQueueCapacity = 0 := hfault
    omega
  | reaperIntervalZero =>
    have hzero : c.reaperInterval.nanos = 0 := hfault
    rw [hinterval] at hzero
    cases hzero
  | reverseTimeoutZero =>
    have hzero : c.reverseCallTimeout.nanos = 0 := hfault
    rw [htimeout] at hzero
    cases hzero
  | threadSpawnFailed => exact hfault.elim

theorem Settings.Carried.exists_fault_iff (h : s.Carried c) :
    (∃ e, c.Fault e) ↔ s.PortFault := by
  constructor
  · rintro ⟨e, hfault⟩
    obtain ⟨role, text, rfl⟩ := h.of_fault hfault
    obtain ⟨hset, hnone⟩ := hfault
    obtain ⟨hnamed, htext⟩ := (h.tcpPort_iff role text).mp hset
    exact ⟨role, text, hnamed, htext, hnone⟩
  · rintro ⟨role, text, hnamed, htext, hnone⟩
    exact ⟨.invalidPort role text, (h.tcpPort_iff role text).mpr ⟨hnamed, htext⟩, hnone⟩

theorem Settings.Carried.validate_iff (h : s.Carried c) : c.validate = .ok () ↔ ¬s.PortFault := by
  rw [Config.validate_eq_ok_iff, ← h.exists_fault_iff, not_exists]

/-! ## Starting -/

/-- A server that can be started is, unless a text or a port is wrong. -/
theorem start_cases (hidle : g.server = none) (hd : g.dispatcher.isSome = true) (s : Settings) :
    (¬s.WellFormed ∧ g.start (some s) = (.invalidArgument, g)) ∨
      (s.WellFormed ∧ s.PortFault ∧ g.start (some s) = (.configError, g)) ∨
      (s.WellFormed ∧ ¬s.PortFault ∧ (g.start (some s)).1 = .ok) := by
  have hfine : ∀ {c}, s.config = .ok c → s.WellFormed := by
    intro c hconfig
    by_contra hbad
    have herror := config_eq_error_iff.mpr (Settings.not_wellFormed_iff.mp hbad)
    cases hconfig.symm.trans herror
  have hstarts := starts g (some s)
  generalize g.start (some s) = r at hstarts
  cases hstarts with
  | malformed h => exact .inl ⟨Settings.not_wellFormed_iff.mpr h, rfl⟩
  | running h hrunning => exact absurd hrunning (not_running hidle)
  | undispatched h _ hnone =>
    rw [hnone] at hd
    cases hd
  | invalid hconfig _ _ hinvalid =>
    have hcarried := carried_config hconfig
    refine .inr (.inl ⟨hfine hconfig, ?_, rfl⟩)
    exact hcarried.exists_fault_iff.mp ⟨_, (Config.validate_eq_error_iff.mp hinvalid).1⟩
  | started hconfig _ _ hvalid =>
    exact .inr (.inr ⟨hfine hconfig, (carried_config hconfig).validate_iff.mp hvalid, rfl⟩)

theorem of_start_eq_configError {settings : Option Settings}
    (h : (g.start settings).1 = .configError) :
    g.server = none ∧ g.dispatcher.isSome = true ∧ (g.start settings).2 = g ∧
      ∃ s c role text, settings = some s ∧ s.config = .ok c ∧
        c.validate = .error (.invalidPort role text) := by
  have hstarts := starts g settings
  generalize g.start settings = r at h hstarts
  cases hstarts with
  | invalid hconfig hidle hdispatcher hinvalid =>
    obtain ⟨hfault, -⟩ := Config.validate_eq_error_iff.mp hinvalid
    obtain ⟨role, text, rfl⟩ := (carried_config hconfig).of_fault hfault
    exact ⟨hidle, Option.isSome_of_eq_some hdispatcher, rfl, _, _, role, text, rfl, hconfig,
      hinvalid⟩
  | _ => cases h

/-! ## Settings, configurations and starts -/

/-- **A server is started with what is well formed, and what is not is told.**

Settings make a configuration exactly if every text is well-formed, and then they are carried
over field by field: a text that is null or empty sets nothing, one and no other number enables
the cache, and a number of milliseconds that is positive is the idle timeout.

A configuration is valid exactly if every port that is set is a numeral for a number of at most
sixteen bits and no number is zero. Every port is then read as the number that it denotes. When
something is wrong, the error is of what comes first: the engine's port, the view's port, the
queue, the interval, the timeout.

With a dispatcher and no running server, a start is refused for the settings exactly if some
text is not well-formed, and for the configuration exactly if every text is and a port that is
set is none. Otherwise the server is started. For the configuration no start is refused for any
other reason than a port, and such a start changes nothing. -/
theorem started_with_well_formed :
    (∀ s : Settings,
      (s.config = .error .invalidArgument ↔ ∃ t ∈ s.texts, t.Malformed) ∧
      (s.WellFormed → ∃ c, s.config = .ok c ∧ s.Carried c)) ∧
    (∀ c : Config,
      (c.validate = .ok () ↔
        (∀ role text, (c.endpoint role).tcpPort = some text → ∃ n, Endpoint.Names text n) ∧
        c.inputQueueCapacity ≠ 0 ∧ c.reaperInterval.nanos ≠ 0 ∧
        c.reverseCallTimeout.nanos ≠ 0) ∧
      (c.validate = .ok () → ∀ role text, (c.endpoint role).tcpPort = some text →
        ∃ n, (c.endpoint role).port = some n ∧ Endpoint.Names text n) ∧
      ∀ e, c.validate = .error e ↔ c.Fault e ∧ ∀ e', c.Fault e' → e.rank ≤ e'.rank) ∧
    (∀ (g : Gateway) (s : Settings), g.server = none → g.dispatcher.isSome = true →
      ((g.start (some s)).1 = .invalidArgument ↔ ∃ t ∈ s.texts, t.Malformed) ∧
      ((g.start (some s)).1 = .configError ↔
        s.WellFormed ∧ ∃ role text, text ≠ "" ∧
          s.tcpPort role = some (Utf8.encode text) ∧ ∀ n, ¬Endpoint.Names text n) ∧
      ((g.start (some s)).1 = .ok ↔ s.WellFormed ∧
        ∀ role text, text ≠ "" → s.tcpPort role = some (Utf8.encode text) →
          ∃ n, Endpoint.Names text n)) ∧
    ∀ (g : Gateway) settings, (g.start settings).1 = .configError →
      g.server = none ∧ g.dispatcher.isSome = true ∧ (g.start settings).2 = g ∧
        ∃ s c role text, settings = some s ∧ s.config = .ok c ∧
          c.validate = .error (.invalidPort role text) := by
  refine ⟨fun s => ⟨config_eq_error_iff, exists_carried⟩,
    fun c => ⟨?_, ?_, fun e => Config.validate_eq_error_iff⟩,
    fun g s hidle hd => ?_, fun g settings => of_start_eq_configError⟩
  · rw [Config.validate_eq_ok_iff, Config.forall_not_fault_iff]
  · intro hvalid role text hset
    have hnone := Config.validate_eq_ok_iff.mp hvalid
    obtain ⟨n, hn⟩ := (Config.forall_not_fault_iff.mp hnone).1 role text hset
    exact ⟨n, (Endpoint.port_eq_some_iff _).mpr ⟨text, hset, hn⟩, hn⟩
  · rw [← Settings.PortFault, ← Settings.not_portFault_iff, ← Settings.not_wellFormed_iff]
    rcases start_cases hidle hd s with
      ⟨hbad, hstart⟩ | ⟨hfine, hport, hstart⟩ | ⟨hfine, hport, hstart⟩
    · simp [hstart, hbad]
    · simp [hstart, hfine, hport]
    · simp [hstart, hfine, hport]

/-- Zeros in front do not count, and a number of more than sixteen bits is no port. -/
theorem started_with_well_formed_ports :
    let g := ({} : Gateway).run [.register Server.waiting]
    let settings (engine view : String) : Settings :=
      { engineTcpPort := some (Utf8.encode engine), viewTcpPort := some (Utf8.encode view) }
    let c : Config := { engine := { tcpPort := some "+0008080" } }
    (settings "+0008080" "").Carried c ∧
      (∃ n, c.engine.port = some n ∧ Endpoint.Names "+0008080" n) ∧
      (g.start (some (settings "+0008080" ""))).1 = .ok ∧
      (g.start (some (settings "8080" "65536"))).1 = .configError ∧
      (g.start (some (settings "8080" "65536"))).2 = g := by
  intro g settings c
  obtain ⟨hsettings, hconfig, hstart, hrefused⟩ := started_with_well_formed
  have hwell : ∀ engine view, (settings engine view).WellFormed := by
    simp [settings, Settings.WellFormed, Settings.texts, CText.Malformed]
  have hnames : Endpoint.Names "+0008080" 8080 :=
    Endpoint.readPort_eq_some_iff.mp (by decide +kernel)
  have hnone : ∀ n, ¬Endpoint.Names "65536" n :=
    Endpoint.readPort_eq_none_iff.mp (by decide +kernel)
  obtain ⟨c', hc', hcarried⟩ := (hsettings (settings "+0008080" "")).2 (hwell _ _)
  have hc : (settings "+0008080" "").config = .ok c := by decide +kernel
  cases hc'.symm.trans hc
  have hvalid : c.validate = .ok () := by decide +kernel
  have hport := (hconfig c).2.1 hvalid .engine "+0008080" rfl
  have hports : ∀ role text, text ≠ "" →
      (settings "+0008080" "").tcpPort role = some (Utf8.encode text) →
      ∃ n, Endpoint.Names text n := by
    intro role text hset htext
    cases role with
    | engine =>
      have hsame := Utf8.encode_injective (Option.some.inj htext)
      exact ⟨8080, hsame ▸ hnames⟩
    | view => exact absurd (Utf8.encode_injective (Option.some.inj htext)).symm hset
  have hstarted := (hstart g (settings "+0008080" "") rfl rfl).2.2.mpr ⟨hwell _ _, hports⟩
  have hwrong := (hstart g (settings "8080" "65536") rfl rfl).2.1.mpr
    ⟨hwell _ _, .view, "65536", by decide, rfl, hnone⟩
  exact ⟨hcarried, hport, hstarted, hwrong, (hrefused g _ hwrong).2.2.1⟩

/-- The engine's port is no number, and still the start is not refused for the configuration:
the token is not the bytes of any text, and that is looked at first. -/
theorem malformed_text_before_port :
    let g := ({} : Gateway).run [.register Server.waiting]
    let s : Settings := { engineTcpPort := some (Utf8.encode "http"), token := some [0xFF] }
    g.server = none ∧ g.dispatcher.isSome = true ∧ (g.start (some s)).1 = .invalidArgument ∧
      ¬((g.start (some s)).1 = .configError ↔
        ∃ role text, text ≠ "" ∧ s.tcpPort role = some (Utf8.encode text) ∧
          ∀ n, ¬Endpoint.Names text n) := by
  intro g s
  have hport : ∀ n, ¬Endpoint.Names "http" n :=
    Endpoint.readPort_eq_none_iff.mp (by decide +kernel)
  have hstart : (g.start (some s)).1 = .invalidArgument := by decide +kernel
  refine ⟨rfl, rfl, hstart, fun hiff => ?_⟩
  have hrefused := hiff.mpr ⟨.engine, "http", by decide, rfl, hport⟩
  rw [hstart] at hrefused
  cases hrefused

end Switchboard.Gateway
