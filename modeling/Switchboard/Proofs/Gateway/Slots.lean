import Switchboard.Proofs.Gateway.Prompt

/-!
# Slots — what is registered, and what runs

The dispatcher and each of the two callbacks have a slot, and the server has one. The server's
slot guards the others: while it is full, the dispatcher stays, and so does a callback that is
there. `Starts` lists how a start comes out, in the order in which things are looked at.
-/

namespace Switchboard

/-! ## What a server is made with -/

theorem Server.made_step (op : Server.Operation) (s : Server) :
    (s.step op).state.config = s.config ∧ (s.step op).state.dispatcher = s.dispatcher := by
  cases op with
  | openStream now shape method request =>
    simp only [Server.step]
    split
    · next ho =>
      rcases Server.openStream_cases ho with ⟨handler, rfl⟩ | ⟨e, rfl⟩ <;> exact ⟨rfl, rfl⟩
    · exact ⟨rfl, rfl⟩
  | reap now =>
    simp only [Server.step, Server.reap]
    split
    · split <;> exact ⟨rfl, rfl⟩
    · exact ⟨rfl, rfl⟩
  | cacheGet now store key =>
    simp only [Server.step, Server.quietly, Server.cacheGet]
    split <;> exact ⟨rfl, rfl⟩
  | cachePut now store key value ttlSeconds =>
    simp only [Server.step, Server.quietly, Server.cachePut]
    split <;> exact ⟨rfl, rfl⟩
  | cacheDelete store key =>
    simp only [Server.step, Server.quietly, Server.cacheDelete]
    split <;> exact ⟨rfl, rfl⟩
  | shutdown now =>
    simp only [Server.step, Server.shutdown]
    split <;> exact ⟨rfl, rfl⟩
  | _ => exact ⟨rfl, rfl⟩

/-- A server keeps the dispatcher that it is started with. -/
theorem Server.dispatcher_after (ops : List Server.Operation) (s : Server) :
    (s.after ops).dispatcher = s.dispatcher := by
  induction ops generalizing s with
  | nil => rfl
  | cons op ops ih => exact (ih (s.step op).state).trans (s.made_step op).2

/-- A server keeps its configuration and its dispatcher, whatever it is made to do. -/
theorem Server.made_prompted (ps : List Gateway.Prompt) (s : Server) :
    (s.prompted ps).config = s.config ∧ (s.prompted ps).dispatcher = s.dispatcher := by
  induction ps generalizing s with
  | nil => exact ⟨rfl, rfl⟩
  | cons p ps ih =>
    obtain ⟨hconfig, hdispatcher⟩ := ih (s.prompt p)
    cases p with
    | perform op =>
      obtain ⟨hconfig', hdispatcher'⟩ := s.made_step op
      exact ⟨hconfig.trans hconfig', hdispatcher.trans hdispatcher'⟩
    | redirect sink => exact ⟨hconfig, hdispatcher⟩

/-- A server is started if its configuration is valid, and is made with what it is given. -/
theorem Server.start_cases (config : Config) (dispatcher : Dispatcher) (around : Surroundings) :
    (∃ e, config.validate = .error e ∧ start config dispatcher around = .error e) ∨
      (config.validate = .ok () ∧ ∃ s, start config dispatcher around = .ok s ∧
        s.config = config ∧ s.dispatcher = dispatcher) := by
  unfold start
  cases hvalid : config.validate with
  | error e => exact .inl ⟨e, rfl, rfl⟩
  | ok => exact .inr ⟨rfl, _, rfl, rfl, rfl⟩

theorem Server.dispatcher_start {config : Config} {dispatcher : Dispatcher} {around : Surroundings}
    {s : Server} (h : start config dispatcher around = .ok s) : s.dispatcher = dispatcher := by
  rcases start_cases config dispatcher around with ⟨e, -, herror⟩ | ⟨-, s', hstarted, -, hgiven⟩
  · cases herror.symm.trans h
  · cases hstarted.symm.trans h
    exact hgiven

namespace Gateway

variable {g : Gateway} {s : Server} {op : Operation} {settings : Option Settings}

/-! ## Settings -/

/-- A text that is there and is not the bytes of any text. -/
def CText.Malformed (t : CText) : Prop := ∃ bs, t = some bs ∧ ∀ text, bs ≠ Utf8.encode text

/-- The texts of the settings, in the order in which they are read. -/
def Settings.texts (s : Settings) : List CText :=
  [s.storagePath, s.cachePath, s.engineSocketPath, s.engineTcpPort, s.viewSocketPath,
    s.viewTcpPort, s.token]

theorem judged_optional (t : CText) : Judged t.Malformed t.optional := by
  cases t with
  | none =>
    refine .inr ⟨fun hbad => ?_, none, rfl⟩
    obtain ⟨bs, hbs, -⟩ := hbad
    cases hbs
  | some bs =>
    unfold CText.optional
    cases hdecode : Utf8.decode? bs with
    | none =>
      refine .inl ⟨⟨bs, rfl, fun text htext => ?_⟩, by simp only [hdecode]⟩
      simp [htext, Utf8.decode?] at hdecode
    | some text =>
      have hbytes := Utf8.encode_of_decode? hdecode
      refine .inr ⟨fun hbad => ?_, _, by simp only [hdecode]; rfl⟩
      obtain ⟨other, hother, hnone⟩ := hbad
      exact hnone text (Option.some.inj hother ▸ hbytes.symm)

theorem judged_config (s : Settings) : Judged (∃ t ∈ s.texts, t.Malformed) s.config := by
  unfold Settings.config
  refine Judged.congr
    ((judged_optional _).bind fun _ => (judged_optional _).bind fun _ =>
      (judged_optional _).bind fun _ => (judged_optional _).bind fun _ =>
      (judged_optional _).bind fun _ => (judged_optional _).bind fun _ =>
      (judged_optional _).bind fun _ => .pure _) ?_
  simp [Settings.texts]

/-! ## Starting -/

theorem not_running (hs : g.server = none) : ¬g.running = true := by simp [running, hs]

/-- How a start comes out. What is looked at first decides. -/
inductive Starts (g : Gateway) : Option Settings → Status × Gateway → Prop where
  | null : Starts g none (.invalidArgument, g)
  | malformed {settings : Settings} (h : ∃ t ∈ settings.texts, t.Malformed) :
    Starts g (some settings) (.invalidArgument, g)
  | running {settings : Settings} (h : ∀ t ∈ settings.texts, ¬t.Malformed)
    (hrunning : g.running = true) : Starts g (some settings) (.alreadyStarted, g)
  | undispatched {settings : Settings} (h : ∀ t ∈ settings.texts, ¬t.Malformed)
    (hidle : g.server = none) (hnone : g.dispatcher = none) :
    Starts g (some settings) (.noDispatcher, g)
  | invalid {settings : Settings} {config : Config} {dispatcher : Dispatcher} {e : ConfigError}
    (hconfig : settings.config = .ok config) (hidle : g.server = none)
    (hdispatcher : g.dispatcher = some dispatcher) (hinvalid : config.validate = .error e) :
    Starts g (some settings) (.configError, g)
  | started {settings : Settings} {config : Config} {dispatcher : Dispatcher} {s : Server}
    (hconfig : settings.config = .ok config) (hidle : g.server = none)
    (hdispatcher : g.dispatcher = some dispatcher) (hvalid : config.validate = .ok ())
    (hs : Server.start config dispatcher g.surroundings = .ok s)
    (hmade : s.config = config ∧ s.dispatcher = dispatcher) :
    Starts g (some settings) (.ok, { g with server := some s })

theorem starts (g : Gateway) (settings : Option Settings) :
    Starts g settings (g.start settings) := by
  unfold start
  cases settings with
  | none => exact .null
  | some settings =>
    dsimp only
    rcases judged_config settings with ⟨hfaulty, hconfig⟩ | ⟨hfine, config, hconfig⟩
    · rw [hconfig]
      exact .malformed hfaulty
    have hfine : ∀ t ∈ settings.texts, ¬t.Malformed := fun t ht hbad => hfine ⟨t, ht, hbad⟩
    rw [hconfig]
    dsimp only
    cases hs : g.server with
    | some s =>
      have hrunning : g.running = true := by rw [Gateway.running, hs]; rfl
      rw [if_pos hrunning]
      exact .running hfine hrunning
    | none =>
      rw [if_neg (not_running hs)]
      cases hdispatcher : g.dispatcher with
      | none => exact .undispatched hfine hs hdispatcher
      | some dispatcher =>
        dsimp only
        rcases Server.start_cases config dispatcher g.surroundings with
          ⟨e, hinvalid, hstart⟩ | ⟨hvalid, s, hstart, hmade⟩
        · rw [hstart]
          exact .invalid hconfig hs hdispatcher hinvalid
        · rw [hstart]
          dsimp only
          rw [← hdispatcher]
          exact .started hconfig hs hdispatcher hvalid hstart hmade

/-- A start that is refused changes nothing. -/
theorem eq_of_start_ne_ok (h : (g.start settings).1 ≠ .ok) : (g.start settings).2 = g := by
  have hstarts := starts g settings
  generalize g.start settings = result at h hstarts
  cases hstarts with
  | started => exact absurd rfl h
  | _ => rfl

def Operation.isStart : Operation → Bool
  | start _ => true
  | _ => false

/-- Nothing reaches a callback, and no server is there afterwards. -/
structure Idles {α : Type} (c : Crossing α) : Prop where
  server : c.gateway.server = none
  handed : c.report.handed = []
  called : c.report.called = []

theorem idles_refused {status : Status} (hs : g.server = none) {c : Crossing Response}
    (h : Refused op status g c) : Idles c := by
  obtain ⟨ledger, hledger⟩ := h.gateway
  refine ⟨?_, by rw [h.report], by rw [h.report]⟩
  rw [hledger]
  exact hs

theorem idles_step (hg : g.Orderly) (hl : g.ledger.Sound) (hs : g.server = none)
    (hop : op.isStart = false) : Idles (g.step op) := by
  cases hentry : op.entry with
  | some asked =>
    cases asked with
    | error status => exact idles_refused hs (refused_of_error hl hentry)
    | ok sop => exact idles_refused hs (refused_of_idle hl hs hentry)
  | none =>
    cases op with
    | start => cases hop
    | register | takeDispatcher =>
      simp only [step, register, takeDispatcher]
      split <;> exact ⟨hs, rfl, rfl⟩
    | registerStreamCallback callback =>
      simp only [step, registerStreamCallback]
      split
      · exact ⟨hs, rfl, rfl⟩
      · refine ⟨?_, rfl, rfl⟩
        show g.server.map _ = none
        rw [hs, Option.map_none]
    | registerReverseCallback callback =>
      simp only [step, registerReverseCallback]
      split
      · exact ⟨hs, rfl, rfl⟩
      · refine ⟨?_, rfl, rfl⟩
        show g.server.map _ = none
        rw [hs, Option.map_none]
    | stop now =>
      simp only [step, stop]
      rw [hs]
      exact ⟨hs, rfl, rfl⟩
    | reap now =>
      simp only [step, reap]
      rw [hs]
      exact ⟨hs, rfl, rfl⟩
    | reverseCall =>
      simp only [step, reverseCall]
      rw [hs]
      exact ⟨hs, rfl, rfl⟩
    | instruct now id i =>
      obtain ⟨-, hnothing⟩ := former_instructFormer now id i hg.former
      simp only [step, instruct]
      rw [hs, Option.filter_none]
      dsimp only
      rw [hnothing]
      exact ⟨rfl, rfl, rfl⟩
    | free | lastPanicMessage => exact ⟨hs, rfl, rfl⟩
    | _ => cases hentry

/-! ## The dispatcher's slot -/

/-- The dispatcher that is registered is that of the server. -/
def Seated (g : Gateway) : Prop := ∀ s, g.server = some s → g.dispatcher = some s.dispatcher

theorem stop_of_idle (hs : g.server = none) (now : Instant) :
    g.stop now = { answer := .ok, gateway := g } := by rw [stop, hs]

theorem Seated.step (h : g.Seated) (hg : g.Orderly) (hl : g.ledger.Sound) (op : Operation) :
    (g.step op).gateway.Seated := by
  intro s' hs'
  cases hs : g.server with
  | some s =>
    by_cases hstop : op.isStop = true
    · cases op with
      | stop now =>
        have hnone : (g.stop now).gateway.server = none := (halts_stop hl hs now).server
        cases hnone.symm.trans hs'
      | _ => cases hstop
    · have hmirrors := mirrors_step hg hl hs (Bool.eq_false_iff.mpr hstop)
      cases hmirrors.server.symm.trans hs'
      rw [hmirrors.dispatcher, h s hs, (Server.made_prompted _ s).2]
  | none =>
    by_cases hstart : op.isStart = true
    · cases op with
      | start settings =>
        have hstarts := starts g settings
        simp only [Gateway.step, plainly] at hs' ⊢
        generalize g.start settings = result at hstarts hs'
        cases hstarts with
        | started hconfig hidle hdispatcher hvalid hserver hmade =>
          cases hs'
          rw [hmade.2]
          exact hdispatcher
        | _ => exact h s' hs'
      | _ => cases hstart
    · have hidles := idles_step hg hl hs (Bool.eq_false_iff.mpr hstart)
      cases hidles.server.symm.trans hs'

theorem Seated.run (h : g.Seated) (hg : g.Orderly) (hl : g.ledger.Sound) (ops : List Operation) :
    (g.run ops).Seated := by
  induction ops generalizing g with
  | nil => exact h
  | cons op ops ih => exact ih (h.step hg hl op) (hg.step op).orderly (sound_ledger_step hl op)

/-! ## Callbacks -/

theorem registerStreamCallback_iff (g : Gateway) (callback : Option StreamCallback) :
    let r := g.registerStreamCallback callback
    (g.streamCallback.isSome ∧ g.running → r = (.alreadyStarted, g)) ∧
      (¬(g.streamCallback.isSome ∧ g.running) → r.1 = .ok ∧ r.2.streamCallback = callback) := by
  simp only [registerStreamCallback, ← Bool.and_eq_true]
  exact ⟨fun hguarded => if_pos hguarded, fun hfree => by rw [if_neg hfree]; exact ⟨rfl, rfl⟩⟩

theorem registerReverseCallback_iff (g : Gateway) (callback : Option ReverseCallback) :
    let r := g.registerReverseCallback callback
    (g.reverseCallback.isSome ∧ g.running → r = (.alreadyStarted, g)) ∧
      (¬(g.reverseCallback.isSome ∧ g.running) → r.1 = .ok ∧ r.2.reverseCallback = callback) := by
  simp only [registerReverseCallback, ← Bool.and_eq_true]
  exact ⟨fun hguarded => if_pos hguarded, fun hfree => by rw [if_neg hfree]; exact ⟨rfl, rfl⟩⟩

/-! ## At any time -/

/-- **The slots are guarded by the server that runs.** At any time, however servers were
started and stopped before:

While a server runs, the dispatcher that is registered is its own, the one it was started with.
None is taken or put in its place, and until the server is stopped a callback that is there
stays. To register a callback is refused, and comes to nothing, exactly if one is there and a
server runs. A start comes out as `Starts` says, and if it is refused it comes to nothing. To stop
is always right, and leaves no server.

With no server, what would be asked of it is refused: as a call of nobody if its arguments are
right, for its arguments otherwise. It leaves all as it was, but that its text may stand in the
ledger. No callback hears of anything. -/
theorem slots_guarded (hangUps : List (SessionId × Nat)) (past : List Operation) :
    let g := ({ hangUps } : Gateway).run past
    (∀ s, g.server = some s →
      g.dispatcher = some s.dispatcher ∧
      (∀ d, g.register d = (.error .alreadyStarted, g)) ∧
      g.takeDispatcher = (.error .alreadyStarted, g) ∧
      ∀ later : List Operation, (∀ op ∈ later, op.isStop = false) →
        let g' := g.run later
        (∃ s', g'.server = some s' ∧ s'.config = s.config ∧ s'.dispatcher = s.dispatcher) ∧
        g'.dispatcher = g.dispatcher ∧
        (g.streamCallback.isSome → g'.streamCallback = g.streamCallback) ∧
        (g.reverseCallback.isSome → g'.reverseCallback = g.reverseCallback)) ∧
    (∀ callback, let r := g.registerStreamCallback callback
      (g.streamCallback.isSome ∧ g.running → r = (.alreadyStarted, g)) ∧
      (¬(g.streamCallback.isSome ∧ g.running) → r.1 = .ok ∧ r.2.streamCallback = callback)) ∧
    (∀ callback, let r := g.registerReverseCallback callback
      (g.reverseCallback.isSome ∧ g.running → r = (.alreadyStarted, g)) ∧
      (¬(g.reverseCallback.isSome ∧ g.running) → r.1 = .ok ∧ r.2.reverseCallback = callback)) ∧
    (∀ settings, Starts g settings (g.start settings) ∧
      ((g.start settings).1 ≠ .ok → (g.start settings).2 = g)) ∧
    (∀ now, (g.stop now).answer = .ok ∧ (g.stop now).gateway.server = none ∧
      (g.stop now).gateway.dispatcher = g.dispatcher) ∧
    (g.server = none →
      (∀ d, g.register d = (.ok (), { g with dispatcher := some d })) ∧
      g.takeDispatcher = (.ok g.dispatcher.isSome, { g with dispatcher := none }) ∧
      (∀ op sop, op.entry = some (.ok sop) → Refused op .notStarted g (g.step op)) ∧
      (∀ op, op.Faulty → Refused op .invalidArgument g (g.step op)) ∧
      (∀ method payload, g.reverseCall method payload =
        { answer := .finished (.error .noCallback), gateway := g }) ∧
      ∀ op, op.isStart = false → Idles (g.step op)) := by
  intro g
  have hg₀ : ({ hangUps } : Gateway).Orderly := orderly_idle hangUps
  have hl₀ := sound_ledger_idle hangUps
  have hg : g.Orderly := (hg₀.run past).1
  have hl : g.ledger.Sound := sound_ledger_run hl₀ past
  have hseated₀ : ({ hangUps } : Gateway).Seated := fun s hs => by cases hs
  have hseated : g.Seated := hseated₀.run hg₀ hl₀ past
  refine ⟨?_, registerStreamCallback_iff g, registerReverseCallback_iff g,
    fun settings => ⟨starts g settings, eq_of_start_ne_ok⟩, ?_, ?_⟩
  · intro s hs
    have hrunning : g.running = true := Option.isSome_of_eq_some hs
    refine ⟨hseated s hs, fun d => if_pos hrunning, if_pos hrunning, ?_⟩
    intro later hlater
    have htracks := tracks_run hg hl hs hlater
    exact ⟨⟨_, htracks.server, Server.made_prompted _ s⟩, htracks.dispatcher,
      htracks.streamCallback, htracks.reverseCallback⟩
  · intro now
    cases hs : g.server with
    | none =>
      rw [stop_of_idle hs]
      exact ⟨rfl, hs, rfl⟩
    | some s =>
      have hhalts := halts_stop hl hs now
      exact ⟨hhalts.answer, hhalts.server, hhalts.dispatcher⟩
  · intro hidle
    refine ⟨fun d => if_neg (not_running hidle), if_neg (not_running hidle),
      fun op sop hentry => refused_of_idle hl hidle hentry, ?_, ?_,
      fun op hop => idles_step hg hl hidle hop⟩
    · intro op hfaulty
      exact refused_of_error hl (Operation.entry_of_faulty hfaulty)
    · intro method payload
      rw [reverseCall, hidle]

/-- Two callbacks come one after the other: the second is refused while the server runs, and
when it is stopped there is nobody to close a session. -/
theorem slots_guarded_replaced :
    let past : List Operation :=
      [.register Server.waiting, .registerStreamCallback (some ⟨"first"⟩), .start (some {})]
    let g := ({} : Gateway).run past
    let later : List Operation := [.registerStreamCallback none, .takeDispatcher]
    g.dispatcher = some Server.waiting ∧
      g.registerStreamCallback (some ⟨"second"⟩) = (.alreadyStarted, g) ∧
      (g.run later).streamCallback = some ⟨"first"⟩ ∧
      (g.registerReverseCallback none).1 = .ok ∧
      let g' := ({} : Gateway).run (past ++ [.stop ⟨1⟩])
      Refused (.close ⟨2⟩ ⟨1⟩) .notStarted g' (g'.step (.close ⟨2⟩ ⟨1⟩)) := by
  intro past g later
  have hlater : ∀ op ∈ later, op.isStop = false := by simp [later, Operation.isStop]
  obtain ⟨hguarded, hstream, hreverse, -, -, -⟩ := slots_guarded [] past
  obtain ⟨hdispatcher, -, -, hstays⟩ := hguarded _ rfl
  obtain ⟨-, -, hcallback, -⟩ := hstays later hlater
  obtain ⟨-, -, -, -, -, hidle⟩ := slots_guarded [] (past ++ [.stop ⟨1⟩])
  obtain ⟨-, -, hnobody, -, -, -⟩ := hidle rfl
  have hempty : ¬(g.reverseCallback.isSome ∧ g.running) := fun h => by cases h.1
  exact ⟨hdispatcher, (hstream _).1 ⟨rfl, rfl⟩, hcallback rfl, ((hreverse none).2 hempty).1,
    hnobody _ _ rfl⟩

end Gateway
end Switchboard
