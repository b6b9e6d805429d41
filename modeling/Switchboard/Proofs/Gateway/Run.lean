import Switchboard.Gateway.Traffic
import Switchboard.Proofs.Server.Stop

/-!
# Run — the C interface in the course of time

A run is a list of calls through the interface and of what happens behind it, done one at a
time: the reaper looks for idle sessions, handlers go on, and calls are made into the front
end. Servers come and go in the course of it. What every operation keeps is `Orderly`, and
what it comes to for the streams is told by `Follows`.
-/

namespace Switchboard.Gateway

/-! ## Operations -/

/-- One call through the interface, or one thing that happens behind it. -/
inductive Operation where
  | register (dispatcher : Dispatcher)
  | takeDispatcher
  | registerStreamCallback (callback : Option StreamCallback)
  | registerReverseCallback (callback : Option ReverseCallback)
  | start (settings : Option Settings)
  | stop (now : Instant)
  | invoke (method : CText) (data : Span) (metadata : Option Span)
  | openStream (now : Instant) (shape : Shape) (method : CText) (data : Span)
  | send (now : Instant) (id : SessionId) (data : Span)
  | closeInput (now : Instant) (id : SessionId)
  | close (now : Instant) (id : SessionId)
  | markReady (now : Instant) (id : SessionId)
  | reap (now : Instant)
  | instruct (now : Instant) (id : SessionId) (i : Instruction)
  | reverseCall (method : String) (payload : Bytes)
  | deliver (id : RequestId) (data : Span)
  | cacheGet (now : Instant) (store key : CText)
  | cachePut (now : Instant) (store key : CText) (data : Span) (ttlSeconds : Int)
  | cacheContains (now : Instant) (store key : CText)
  | cacheDelete (store key : CText)
  | free (p : Pointer)
  | lastPanicMessage (buffer : Option Bytes)

/-- The answer to an operation. -/
inductive Response where
  | status (status : Status)
  | registered (result : Except RegistrationError Unit)
  | taken (result : Except RegistrationError Bool)
  | replied (envelope : Envelope)
  | opened (number : Int)
  | sent (answer : SendAnswer)
  | counted (number : Nat)
  | atWork (working : Bool)
  | called (answer : CallAnswer)
  | found (number : Int)
  | message (result : Nat × Option Bytes)
  | nothing

/-- The identity of the session that was opened, if one was. -/
def Response.opened? : Response → Option SessionId
  | .opened number => if number < 0 then none else some ⟨number⟩
  | _ => none

/-- Changes the answer and nothing else. -/
def Crossing.map {α β : Type} (f : α → β) (c : Crossing α) : Crossing β :=
  { c with answer := f c.answer }

/-- An operation on which nothing is handed over. -/
def plainly {α : Type} (f : α → Response) (r : α × Gateway) : Crossing Response :=
  { answer := f r.1, gateway := r.2 }

/-- The gateway under an operation. -/
def step (op : Operation) (g : Gateway) : Crossing Response :=
  match op with
  | .register dispatcher => plainly .registered (g.register dispatcher)
  | .takeDispatcher => plainly .taken g.takeDispatcher
  | .registerStreamCallback callback => plainly .status (g.registerStreamCallback callback)
  | .registerReverseCallback callback => plainly .status (g.registerReverseCallback callback)
  | .start settings => plainly .status (g.start settings)
  | .stop now => (g.stop now).map .status
  | .invoke method data metadata => plainly .replied (g.invoke method data metadata)
  | .openStream now shape method data => (g.openStream now shape method data).map .opened
  | .send now id data => (g.send now id data).map .sent
  | .closeInput now id => (g.closeInput now id).map .status
  | .close now id => (g.close now id).map .status
  | .markReady now id => (g.markReady now id).map .status
  | .reap now => (g.reap now).map .counted
  | .instruct now id i => (g.instruct now id i).map .atWork
  | .reverseCall method payload => (g.reverseCall method payload).map .called
  | .deliver id data => (g.deliver id data).map .status
  | .cacheGet now store key => plainly .replied (g.cacheGet now store key)
  | .cachePut now store key data ttlSeconds =>
    plainly .status (g.cachePut now store key data ttlSeconds)
  | .cacheContains now store key =>
    { answer := .found (g.cacheContains now store key), gateway := g }
  | .cacheDelete store key => plainly .status (g.cacheDelete store key)
  | .free p => { answer := .nothing, gateway := g.free p }
  | .lastPanicMessage buffer => { answer := .message (g.lastPanicMessage buffer), gateway := g }

/-- The gateway after operations, one after the other. -/
def run (ops : List Operation) (g : Gateway) : Gateway :=
  ops.foldl (fun g op => (g.step op).gateway) g

/-- All that is handed to stream callbacks in the course of a run. -/
def handed : List Operation → Gateway → List Handed
  | [], _ => []
  | op :: ops, g => (g.step op).report.handed ++ handed ops (g.step op).gateway

/-- The sessions that are opened in the course of a run. -/
def opened : List Operation → Gateway → List SessionId
  | [], _ => []
  | op :: ops, g => (g.step op).answer.opened?.toList ++ opened ops (g.step op).gateway

/-! ## What every operation keeps -/

variable {g : Gateway} {s : Server} {op : Operation} {ops : List Operation}

/-- The counter that numbers sessions: that of the server, while one runs. -/
def counter (g : Gateway) : Counter :=
  match g.server with
  | some s => s.host.manager.counter
  | none => g.sessions

/-- The sessions that are live, which only those of the running server can be. -/
def liveIds (g : Gateway) : List SessionId :=
  match g.server with
  | some s => s.host.manager.liveIds
  | none => []

/-- What a gateway keeps true. The server that runs is not stopped and numbers its sessions
from where its predecessor left off; of those that were stopped, all streams are over. -/
structure Orderly (g : Gateway) : Prop where
  positive : 0 < g.sessions.next
  running : ∀ s, g.server = some s → s.Kept g.sessions.next ∧ s.stopped = false
  former : ∀ s ∈ g.former, ∃ first, s.Kept first ∧ s.host.manager.Over

/-- What one moment of a gateway tells of a later one, and of what is handed over between. -/
structure Follows (g g' : Gateway) (hs : List Handed) : Prop where
  counter : g.counter.next ≤ g'.counter.next
  live : ∀ id ∈ g'.liveIds, id ∈ g.liveIds ∨ (g.counter.next : Int) ≤ id.number
  heard : ∀ h ∈ hs, h.session ∈ g.liveIds ∨ (g.counter.next : Int) ≤ h.session.number

theorem Follows.refl (g : Gateway) : Follows g g [] := ⟨Nat.le_refl _, fun _ h => .inl h, nofun⟩

theorem Follows.trans {g' g'' : Gateway} {hs hs' : List Handed} (h : Follows g g' hs)
    (h' : Follows g' g'' hs') : Follows g g'' (hs ++ hs') := by
  have hcounter := h.counter
  have hearlier : ∀ id, id ∈ g'.liveIds ∨ (g'.counter.next : Int) ≤ id.number →
      id ∈ g.liveIds ∨ (g.counter.next : Int) ≤ id.number := by
    intro id hid
    rcases hid with hlive | hlater
    · exact h.live id hlive
    · exact .inr (by omega)
  refine ⟨Nat.le_trans hcounter h'.counter, fun id hid => hearlier id (h'.live id hid),
    fun d hd => ?_⟩
  rcases List.mem_append.mp hd with hnow | hlater
  · exact h.heard d hnow
  · exact hearlier d.session (h'.heard d hlater)

/-- The operation keeps what is to be kept, and leads from one moment to a later one. -/
structure Sound {α : Type} (g : Gateway) (c : Crossing α) : Prop where
  orderly : c.gateway.Orderly
  follows : Follows g c.gateway c.report.handed

theorem Sound.map {α β : Type} {c : Crossing α} (h : Sound g c) (f : α → β) :
    Sound g (c.map f) := ⟨h.orderly, h.follows⟩

theorem sound_idle {α : Type} (hg : g.Orderly) (answer : α) :
    Sound g { answer, gateway := g } := ⟨hg, .refl g⟩

/-! ## Handing over -/

/-- Handing over leaves all as it is but the ledger. -/
theorem handOver_eq (g : Gateway) (ds : List Delivery) :
    ∃ ledger, (g.handOver ds).2 = { g with ledger } := by
  induction ds generalizing g with
  | nil => exact ⟨g.ledger, rfl⟩
  | cons d ds ih =>
    unfold handOver
    split
    · exact ⟨g.ledger, rfl⟩
    · obtain ⟨ledger, hledger⟩ := ih { g with ledger := (g.ledger.success d.frame.payload).2 }
      exact ⟨ledger, hledger⟩

/-- What is handed over was delivered. -/
theorem session_of_handed {g : Gateway} {ds : List Delivery} {h : Handed}
    (hh : h ∈ (g.handOver ds).1) : ∃ d ∈ ds, d.session = h.session := by
  induction ds generalizing g with
  | nil => cases hh
  | cons d ds ih =>
    unfold handOver at hh
    split at hh
    · cases hh
    · rcases List.mem_cons.mp hh with rfl | hlater
      · exact ⟨d, List.mem_cons_self, rfl⟩
      · obtain ⟨d', hd', hsession⟩ := ih hlater
        exact ⟨d', List.mem_cons_of_mem d hd', hsession⟩

theorem server_after {α : Type} (g : Gateway) (o : Outcome Server α) :
    (g.after o).gateway.server = some o.state := by
  obtain ⟨ledger, hledger⟩ := handOver_eq { g with server := some o.state } o.activity.deliveries
  exact congrArg Gateway.server hledger

/-! ## Each operation -/

/-- What leaves the servers alone is sound. -/
theorem sound_aside {α : Type} {c : Crossing α} (hg : g.Orderly)
    (hserver : c.gateway.server = g.server) (hformer : c.gateway.former = g.former)
    (hsessions : c.gateway.sessions = g.sessions) (hnothing : c.report.handed = []) :
    Sound g c := by
  obtain ⟨answer, g', report⟩ := c
  dsimp only at hserver hformer hsessions hnothing
  refine ⟨⟨hsessions ▸ hg.positive, ?_, hformer ▸ hg.former⟩, ?_⟩
  · rw [hserver, hsessions]
    exact hg.running
  · have hcounter : g'.counter = g.counter := by rw [counter, hserver, hsessions, counter]
    have hlive : g'.liveIds = g.liveIds := by rw [liveIds, hserver, liveIds]
    dsimp only
    rw [hnothing]
    exact ⟨hcounter ▸ Nat.le_refl _, fun id hid => .inl (hlive ▸ hid), nofun⟩

/-- What is sound for the server that runs is sound. -/
theorem sound_served {α β : Type} {c : Crossing α} {o : Outcome Server β} (hg : g.Orderly)
    (hs : g.server = some s) (ho : Server.Sound g.sessions.next s o)
    (hrunning : o.state.stopped = s.stopped) (hserver : c.gateway.server = some o.state)
    (hformer : c.gateway.former = g.former) (hsessions : c.gateway.sessions = g.sessions)
    (hheard : ∀ h ∈ c.report.handed, ∃ d ∈ o.activity.deliveries, d.session = h.session) :
    Sound g c := by
  obtain ⟨answer, g', report⟩ := c
  dsimp only at hserver hformer hsessions hheard
  have hcounter : g.counter = s.host.manager.counter := by rw [counter, hs]
  have hcounter' : g'.counter = o.state.host.manager.counter := by rw [counter, hserver]
  have hlive : g.liveIds = s.host.manager.liveIds := by rw [liveIds, hs]
  have hlive' : g'.liveIds = o.state.host.manager.liveIds := by rw [liveIds, hserver]
  refine ⟨⟨hsessions ▸ hg.positive, fun s' hs' => ?_, hformer ▸ hg.former⟩, ?_⟩
  · cases hserver.symm.trans hs'
    exact ⟨hsessions ▸ ho.kept, hrunning.trans (hg.running s hs).2⟩
  · refine ⟨?_, fun id hid => ?_, fun h hh => ?_⟩
    · rw [hcounter, hcounter']
      exact ho.follows.counter
    · rw [hcounter, hlive]
      exact ho.follows.live id (hlive' ▸ hid)
    · obtain ⟨d, hd, hsession⟩ := hheard h hh
      rw [hcounter, hlive, ← hsession]
      exact ho.follows.heard d hd

/-- An operation of the server that runs, on which nothing is delivered. -/
theorem sound_step {α : Type} {c : Crossing α} (hg : g.Orderly) (hs : g.server = some s)
    (sop : Server.Operation) (hsop : sop.isShutdown = false)
    (hserver : c.gateway.server = some (s.step sop).state) (hformer : c.gateway.former = g.former)
    (hsessions : c.gateway.sessions = g.sessions) (hnothing : c.report.handed = []) :
    Sound g c := by
  have hrunning : (s.step sop).state.stopped = s.stopped := by
    rw [Server.stopped_step, hsop, Bool.or_false]
  exact sound_served hg hs ((hg.running s hs).1.step sop) hrunning hserver hformer hsessions
    (by simp [hnothing])

/-- What leaves the streams of the server that runs alone is sound. -/
theorem sound_beside {α : Type} {c : Crossing α} {s' : Server} (hg : g.Orderly)
    (hs : g.server = some s) (hserver : c.gateway.server = some s') (hhost : s'.host = s.host)
    (hstopped : s'.stopped = s.stopped) (hformer : c.gateway.former = g.former)
    (hsessions : c.gateway.sessions = g.sessions) (hnothing : c.report.handed = []) :
    Sound g c :=
  sound_served hg hs (Server.sound_beside (hg.running s hs).1 hhost hstopped ()) hstopped hserver
    hformer hsessions (by simp [hnothing])

theorem sound_after {α β : Type} {o : Outcome Server α} (hg : g.Orderly)
    (hs : g.server = some s) {o' : Outcome Server β} (ho : Server.Sound g.sessions.next s o')
    (hrunning : o'.state.stopped = s.stopped) (hstate : o.state = o'.state)
    (hactivity : o.activity = o'.activity) : Sound g (g.after o) := by
  obtain ⟨ledger, hledger⟩ := handOver_eq { g with server := some o.state } o.activity.deliveries
  refine sound_served hg hs ho hrunning ?_ ?_ ?_ fun h hh => hactivity ▸ session_of_handed hh
  · show (handOver _ _).2.server = _
    rw [hledger, hstate]
  · show (handOver _ _).2.former = _
    rw [hledger]
  · show (handOver _ _).2.sessions = _
    rw [hledger]

theorem current_of_server (hs : g.server = some s) : g.current = .ok s := by rw [current, hs]

theorem server_of_current (h : g.current = .ok s) : g.server = some s := by
  unfold current at h
  split at h
  · next hs =>
    cases h
    exact hs
  · cases h

theorem eq_of_current {status : Status} (h : g.current = .error status) :
    status = .notStarted := by
  unfold current at h
  split at h <;> cases h
  rfl

theorem sound_onServer {f : Server → Outcome Server (Except StreamError Unit)} (hg : g.Orderly)
    (hf : ∀ s, s.Kept g.sessions.next → Server.Sound g.sessions.next s (f s))
    (hrunning : ∀ s, (f s).state.stopped = s.stopped) : Sound g (g.onServer f) := by
  unfold onServer
  split
  · exact sound_idle hg _
  · next s hcurrent =>
    have hs := server_of_current hcurrent
    exact sound_after hg hs (hf s (hg.running s hs).1) (hrunning s) rfl rfl

theorem sound_openStream (hg : g.Orderly) (now : Instant) (shape : Shape) (method : CText)
    (data : Span) : Sound g (g.openStream now shape method data) := by
  unfold openStream
  split
  · exact sound_idle hg _
  · exact sound_idle hg _
  · next s _ hcurrent =>
    have hs := server_of_current hcurrent
    split
    · exact sound_aside hg rfl rfl rfl rfl
    · next o ho =>
      refine sound_after hg hs (Server.sound_openStream (hg.running s hs).1 ho) ?_ rfl rfl
      rcases Server.openStream_cases ho with ⟨handler, rfl⟩ | ⟨e, rfl⟩ <;> rfl

theorem sound_send (hg : g.Orderly) (now : Instant) (id : SessionId) (data : Span) :
    Sound g (g.send now id data) := by
  unfold send
  split
  · exact sound_idle hg _
  · exact sound_idle hg _
  · next chunk s _ hcurrent =>
    have hs := server_of_current hcurrent
    have hkept := (hg.running s hs).1
    have hsound : Server.Sound g.sessions.next s (s.send now id chunk) :=
      Server.sound_stream hkept (Host.carried_send now id chunk hkept.ordered)
    exact sound_after hg hs hsound rfl rfl rfl

theorem sound_reap (hg : g.Orderly) (now : Instant) : Sound g (g.reap now) := by
  unfold reap
  split
  · exact sound_idle hg _
  · next s hs =>
    refine sound_after hg hs (Server.sound_reap (hg.running s hs).1 now) ?_ rfl rfl
    unfold Server.reap
    split
    · split <;> rfl
    · rfl

/-- Of a server that was stopped nothing is heard any more. -/
theorem former_instructFormer (now : Instant) (id : SessionId) (i : Instruction)
    {servers : List Server} (h : ∀ s ∈ servers, ∃ first, s.Kept first ∧ s.host.manager.Over) :
    (∀ s ∈ (instructFormer now id i servers).state,
      ∃ first, s.Kept first ∧ s.host.manager.Over) ∧
    (instructFormer now id i servers).activity.deliveries = [] := by
  induction servers with
  | nil => exact ⟨fun _ hs => absurd hs List.not_mem_nil, rfl⟩
  | cons s ss ih =>
    obtain ⟨hhead, htail⟩ := List.forall_mem_cons.mp h
    obtain ⟨first, hkept, hover⟩ := hhead
    rw [instructFormer]
    split
    · have hsound : Server.Sound first s (s.instruct now id i) :=
        Server.sound_stream hkept (Host.carried_instruct now id i hkept.ordered)
      obtain ⟨hover', hnothing⟩ := hsound.follows.ended hover
      exact ⟨List.forall_mem_cons.mpr ⟨⟨first, hsound.kept, hover'⟩, htail⟩, hnothing⟩
    · obtain ⟨hkeeps, hnothing⟩ := ih htail
      exact ⟨List.forall_mem_cons.mpr ⟨⟨first, hkept, hover⟩, hkeeps⟩, hnothing⟩

theorem sound_instruct (hg : g.Orderly) (now : Instant) (id : SessionId) (i : Instruction) :
    Sound g (g.instruct now id i) := by
  unfold instruct
  split
  · next s hs =>
    have hs := (Option.filter_eq_some_iff.mp hs).1
    have hkept := (hg.running s hs).1
    have hsound : Server.Sound g.sessions.next s (s.instruct now id i) :=
      Server.sound_stream hkept (Host.carried_instruct now id i hkept.ordered)
    exact sound_after hg hs hsound rfl rfl rfl
  · obtain ⟨hkeeps, hnothing⟩ := former_instructFormer now id i hg.former
    dsimp only
    rw [hnothing]
    exact ⟨⟨hg.positive, hg.running, hkeeps⟩, ⟨Nat.le_refl _, fun _ hid => .inl hid, nofun⟩⟩

/-- The next server takes up where the last one left off. -/
theorem sound_started {config : Config} {dispatcher : Dispatcher} (hg : g.Orderly)
    (hidle : g.server = none) (h : Server.start config dispatcher g.surroundings = .ok s)
    (status : Status) : Sound g { answer := status, gateway := { g with server := some s } } := by
  obtain ⟨hhost, hrunning⟩ := Server.host_start h
  refine ⟨⟨hg.positive, fun s' hs' => ?_, hg.former⟩, ?_, fun id hid => ?_, nofun⟩
  · cases hs'
    exact ⟨Server.kept_start h, hrunning⟩
  · simp [counter, hidle, hhost, surroundings]
  · simp [liveIds, hhost, Manager.liveIds, Manager.registry] at hid

theorem sound_start (hg : g.Orderly) (settings : Option Settings) :
    Sound g (plainly .status (g.start settings)) := by
  unfold start
  split
  · exact sound_idle hg _
  · split
    · exact sound_idle hg _
    · split
      · exact sound_idle hg _
      · next hidle =>
        have hidle : g.server = none := by simpa [running] using hidle
        split
        · exact sound_idle hg _
        · split
          · exact sound_idle hg _
          · next s hstart =>
            obtain ⟨horderly, hfollows⟩ := sound_started hg hidle hstart .ok
            exact ⟨horderly, hfollows⟩

theorem sound_stop (hg : g.Orderly) (now : Instant) : Sound g (g.stop now) := by
  unfold stop
  split
  · exact sound_idle hg _
  · next s hs =>
    have hsound := Server.sound_shutdown (hg.running s hs).1 now
    have hstopped : (s.shutdown now).state.stopped = true :=
      (Server.stopped_step (.shutdown now) s).trans (Bool.or_true _)
    generalize s.shutdown now = o at hsound hstopped
    obtain ⟨hkept, hfollows⟩ := hsound
    have hcounter : g.counter = s.host.manager.counter := by rw [counter, hs]
    have hlive : g.liveIds = s.host.manager.liveIds := by rw [liveIds, hs]
    dsimp only
    generalize dismiss g.callers o.state.channel = dismissed
    obtain ⟨ledger, hledger⟩ := handOver_eq
      { g with
        server := none
        former := { o.state with channel := dismissed.2 } :: g.former
        sessions := o.state.host.manager.counter
        requests := dismissed.2.counter
        callers := [] }
      o.activity.deliveries
    refine ⟨?_, ?_⟩
    · dsimp only
      rw [hledger]
      refine ⟨Nat.lt_of_lt_of_le hg.positive hkept.ordered.numbered.counted, fun s' hs' => ?_, ?_⟩
      · cases hs'
      · refine List.forall_mem_cons.mpr ⟨⟨g.sessions.next, ?_⟩, hg.former⟩
        exact ⟨⟨hkept.ordered, hkept.over_of_stopped⟩, hkept.over_of_stopped hstopped⟩
    · refine ⟨?_, fun id hid => ?_, fun h hh => ?_⟩
      · rw [hcounter, hledger]
        exact hfollows.counter
      · rw [hledger] at hid
        exact absurd hid List.not_mem_nil
      · obtain ⟨d, hd, hsession⟩ := session_of_handed hh
        rw [hcounter, hlive, ← hsession]
        exact hfollows.heard d hd

theorem sound_registerStreamCallback (hg : g.Orderly) (callback : Option StreamCallback) :
    Sound g (plainly .status (g.registerStreamCallback callback)) := by
  unfold registerStreamCallback
  split
  · exact sound_idle hg _
  · cases hs : g.server with
    | none => exact sound_aside hg hs.symm rfl rfl rfl
    | some s =>
      exact sound_step hg hs (.setHeard callback.isSome) rfl rfl rfl rfl rfl

theorem sound_registerReverseCallback (hg : g.Orderly) (callback : Option ReverseCallback) :
    Sound g (plainly .status (g.registerReverseCallback callback)) := by
  unfold registerReverseCallback
  split
  · exact sound_idle hg _
  · cases hs : g.server with
    | none => exact sound_aside hg hs.symm rfl rfl rfl
    | some s => exact sound_beside hg hs rfl rfl rfl rfl rfl rfl

theorem handCalls_eq (g : Gateway) (rs : List Reverse.Request) :
    ∃ ledger, (g.handCalls rs).2 = { g with ledger } := by
  induction rs generalizing g with
  | nil => exact ⟨g.ledger, rfl⟩
  | cons r rs ih =>
    obtain ⟨ledger, hledger⟩ := ih { g with ledger := (g.ledger.success r.payload).2 }
    exact ⟨ledger, hledger⟩

theorem sound_reverseCall (hg : g.Orderly) (method : String) (payload : Bytes) :
    Sound g (g.reverseCall method payload) := by
  unfold reverseCall
  split
  · exact sound_idle hg _
  · next s hs =>
    -- Whatever became of the call, it is between the channel and the callback.
    have hbeside : ∀ (channel : Reverse.Channel) (rs : List Reverse.Request)
        (callers : List RequestId) (answer : CallAnswer) (report : Report), report.handed = [] →
        Sound g { answer, report,
                  gateway := { (handCalls { g with server := some { s with channel } } rs).2 with
                    callers } } := by
      intro channel rs callers answer report hnothing
      obtain ⟨ledger, hledger⟩ := handCalls_eq { g with server := some { s with channel } } rs
      rw [hledger]
      exact sound_beside hg hs rfl rfl rfl rfl rfl hnothing
    dsimp only
    split
    · exact hbeside _ _ _ _ _ rfl
    · split
      · exact hbeside _ _ _ _ _ rfl
      · exact hbeside _ _ _ _ _ rfl

theorem sound_deliver (hg : g.Orderly) (id : RequestId) (data : Span) :
    Sound g (g.deliver id data) := by
  unfold deliver
  split
  · exact sound_idle hg _
  · exact sound_idle hg _
  · next s _ hcurrent =>
    have hs := server_of_current hcurrent
    dsimp only
    split
    · exact sound_idle hg _
    · exact sound_beside hg hs rfl rfl rfl rfl rfl rfl

theorem server_of_cacheArguments {store key : CText} {store' key' : String}
    (h : g.cacheArguments store key = .ok (store', key', s)) : g.server = some s := by
  unfold cacheArguments at h
  cases hstore : store.required with
  | error e =>
    rw [hstore] at h
    cases h
  | ok store =>
    cases hkey : key.required with
    | error e =>
      rw [hstore, hkey] at h
      cases h
    | ok key =>
      cases hcurrent : g.current with
      | error e =>
        rw [hstore, hkey, hcurrent] at h
        cases h
      | ok s' =>
        rw [hstore, hkey, hcurrent] at h
        cases h
        exact server_of_current hcurrent

/-- A refusal leaves all as it is but the ledger. -/
theorem refuse_eq (text : String) (g : Gateway) :
    g.refuse text =
      ((g.ledger.failure text).1, { g with ledger := (g.ledger.failure text).2 }) := rfl

theorem sound_cacheGet (hg : g.Orderly) (now : Instant) (store key : CText) :
    Sound g (plainly .replied (g.cacheGet now store key)) := by
  simp only [cacheGet, refuse_eq]
  split
  · exact sound_aside hg rfl rfl rfl rfl
  · next store key s harguments =>
    split
    · exact sound_aside hg rfl rfl rfl rfl
    · exact sound_step hg (server_of_cacheArguments harguments) (.cacheGet now store key)
        rfl rfl rfl rfl rfl

theorem sound_cachePut (hg : g.Orderly) (now : Instant) (store key : CText) (data : Span)
    (ttlSeconds : Int) : Sound g (plainly .status (g.cachePut now store key data ttlSeconds)) := by
  unfold cachePut
  split
  · exact sound_idle hg _
  · exact sound_idle hg _
  · next value store key s _ harguments =>
    exact sound_step hg (server_of_cacheArguments harguments)
      (.cachePut now store key value ttlSeconds) rfl rfl rfl rfl rfl

theorem sound_cacheDelete (hg : g.Orderly) (store key : CText) :
    Sound g (plainly .status (g.cacheDelete store key)) := by
  unfold cacheDelete
  split
  · exact sound_idle hg _
  · next store key s harguments =>
    exact sound_step hg (server_of_cacheArguments harguments) (.cacheDelete store key)
      rfl rfl rfl rfl rfl

theorem sound_invoke (hg : g.Orderly) (method : CText) (data : Span) (metadata : Option Span) :
    Sound g (plainly .replied (g.invoke method data metadata)) := by
  simp only [invoke, refuse_eq]
  split
  · exact sound_aside hg rfl rfl rfl rfl
  · split
    · exact sound_aside hg rfl rfl rfl rfl
    · split <;> exact sound_aside hg rfl rfl rfl rfl

/-- **Every operation is sound.** -/
theorem Orderly.step (hg : g.Orderly) (op : Operation) : Sound g (g.step op) := by
  cases op with
  | register dispatcher =>
    simp only [Gateway.step, register]
    split <;> exact sound_aside hg rfl rfl rfl rfl
  | takeDispatcher =>
    simp only [Gateway.step, takeDispatcher]
    split <;> exact sound_aside hg rfl rfl rfl rfl
  | registerStreamCallback callback => exact sound_registerStreamCallback hg callback
  | registerReverseCallback callback => exact sound_registerReverseCallback hg callback
  | start settings => exact sound_start hg settings
  | stop now => exact (sound_stop hg now).map _
  | invoke method data metadata => exact sound_invoke hg method data metadata
  | openStream now shape method data => exact (sound_openStream hg now shape method data).map _
  | send now id data => exact (sound_send hg now id data).map _
  | closeInput now id =>
    exact (sound_onServer hg (fun s hs =>
      Server.sound_stream hs (Host.carried_closeInput now id hs.ordered)) fun _ => rfl).map _
  | close now id =>
    exact (sound_onServer hg (fun s hs =>
      Server.sound_stream hs (Host.carried_close now id hs.ordered)) fun _ => rfl).map _
  | markReady now id =>
    exact (sound_onServer hg (fun s hs =>
      Server.sound_stream hs (Host.carried_markReady now id hs.ordered)) fun _ => rfl).map _
  | reap now => exact (sound_reap hg now).map _
  | instruct now id i => exact (sound_instruct hg now id i).map _
  | reverseCall method payload => exact (sound_reverseCall hg method payload).map _
  | deliver id data => exact (sound_deliver hg id data).map _
  | cacheGet now store key => exact sound_cacheGet hg now store key
  | cachePut now store key data ttlSeconds => exact sound_cachePut hg now store key data ttlSeconds
  | cacheDelete store key => exact sound_cacheDelete hg store key
  | cacheContains | lastPanicMessage => exact sound_idle hg _
  | free p => exact sound_aside hg rfl rfl rfl rfl

/-! ## A run -/

theorem orderly_idle (hangUps : List (SessionId × Nat)) : ({ hangUps } : Gateway).Orderly :=
  ⟨Nat.one_pos, fun _ hs => (by cases hs), fun _ hs => absurd hs List.not_mem_nil⟩

theorem Orderly.run (hg : g.Orderly) (ops : List Operation) :
    (g.run ops).Orderly ∧ Follows g (g.run ops) (handed ops g) := by
  induction ops generalizing g with
  | nil => exact ⟨hg, .refl g⟩
  | cons op ops ih =>
    obtain ⟨horderly, hfollows⟩ := hg.step op
    obtain ⟨horderly', hfollows'⟩ := ih horderly
    exact ⟨horderly', hfollows.trans hfollows'⟩

/-! ## The sessions that are opened -/

theorem eq_of_optional {t : CText} {status : Status} (h : t.optional = .error status) :
    status = .invalidArgument := by
  unfold CText.optional at h
  split at h
  · cases h
  · split at h <;> cases h
    rfl

theorem eq_of_required {t : CText} {status : Status} (h : t.required = .error status) :
    status = .invalidArgument := by
  unfold CText.required at h
  split at h
  · next hoptional =>
    cases h
    exact eq_of_optional hoptional
  · cases h
    rfl
  · cases h

theorem eq_of_bytes {data : Span} {status : Status} (h : data.bytes = .error status) :
    status = .invalidArgument := by
  unfold Span.bytes at h
  repeat' split at h
  all_goals cases h
  all_goals rfl

theorem eq_of_openArguments {shape : Shape} {method : CText} {data : Span} {status : Status}
    (h : openArguments shape method data = .error status) : status = .invalidArgument := by
  unfold openArguments at h
  cases hmethod : method.required with
  | error e =>
    rw [hmethod] at h
    cases h
    exact eq_of_required hmethod
  | ok method =>
    rw [hmethod] at h
    cases hbytes : data.bytes with
    | error e =>
      have he := eq_of_bytes hbytes
      cases shape <;> simp_all [bind, Except.bind, pure, Except.pure]
    | ok request => cases shape <;> simp_all [bind, Except.bind, pure, Except.pure]

theorem ofDispatch_ne_ok (e : DispatchError) : Status.ofDispatch e ≠ .ok := by
  cases e <;> simp [Status.ofDispatch]

theorem ofStream_ne_ok (e : StreamError) : Status.ofStream e ≠ .ok := by
  cases e <;> simp [Status.ofStream, ofDispatch_ne_ok]

theorem opened?_of_ne_ok {status : Status} (h : status ≠ .ok) :
    (Response.opened status.code).opened? = none := if_pos ((Status.code_neg_iff status).mpr h)

/-- A session that is opened gets the number that comes next. -/
theorem number_openStream {now : Instant} {shape : Shape} {method : CText} {data : Span}
    {id : SessionId}
    (h : (Response.opened (g.openStream now shape method data).answer).opened? = some id) :
    id.number = g.counter.next ∧
      (g.openStream now shape method data).gateway.counter = g.counter.advance := by
  unfold openStream at h ⊢
  split at h
  · next harguments =>
    rw [opened?_of_ne_ok (by simp [eq_of_openArguments harguments])] at h
    cases h
  · next hcurrent =>
    rw [opened?_of_ne_ok (by simp [eq_of_current hcurrent])] at h
    cases h
  · next s harguments hcurrent =>
    have hcounter : g.counter = s.host.manager.counter := by
      rw [counter, server_of_current hcurrent]
    split at h
    · rw [opened?_of_ne_ok (by simp)] at h
      cases h
    · next o ho =>
      dsimp only [after, Outcome.map] at h
      cases hanswer : o.answer with
      | error e =>
        rw [hanswer, opened?_of_ne_ok (ofStream_ne_ok e)] at h
        cases h
      | ok opened =>
        rcases Server.openStream_cases ho with ⟨handler, rfl⟩ | ⟨e, rfl⟩
        · obtain ⟨hnumber, hnext⟩ := Host.number_openSession hanswer
          have hpositive : ¬opened.number < 0 := by omega
          rw [hanswer, Response.opened?, if_neg hpositive] at h
          cases h
          refine ⟨hcounter ▸ hnumber, ?_⟩
          rw [counter, server_after, hcounter]
          exact hnext
        · cases hanswer

theorem opened_step {id : SessionId} (h : (g.step op).answer.opened? = some id) :
    id.number = g.counter.next ∧ (g.step op).gateway.counter = g.counter.advance := by
  cases op with
  | openStream now shape method data => exact number_openStream h
  | _ => cases h

/-- **Sessions are numbered in opening order**, across servers. -/
theorem Orderly.opened (hg : g.Orderly) (ops : List Operation) :
    (opened ops g).Pairwise (fun a b => a.number < b.number) ∧
      ∀ id ∈ opened ops g, (g.counter.next : Int) ≤ id.number ∧
        id.number < (g.run ops).counter.next := by
  induction ops generalizing g with
  | nil => exact ⟨.nil, fun _ hid => absurd hid List.not_mem_nil⟩
  | cons op ops ih =>
    obtain ⟨horderly, hfollows⟩ := hg.step op
    obtain ⟨hincreasing, hwithin⟩ := ih horderly
    have hcounter := hfollows.counter
    have hlater : (g.step op).gateway.counter.next ≤ (g.run (op :: ops)).counter.next :=
      (horderly.run ops).2.counter
    rw [Gateway.opened]
    cases hopened : (g.step op).answer.opened? with
    | none =>
      refine ⟨hincreasing, fun id hid => ?_⟩
      obtain ⟨hlower, hupper⟩ := hwithin id hid
      exact ⟨by omega, hupper⟩
    | some new =>
      obtain ⟨hnumber, hnext⟩ := opened_step hopened
      have hnext : (g.step op).gateway.counter.next = g.counter.next + 1 :=
        congrArg Counter.next hnext
      refine ⟨List.pairwise_cons.mpr ⟨fun id hid => ?_, hincreasing⟩, fun id hid => ?_⟩
      · have := hwithin id hid
        omega
      · rcases List.mem_cons.mp hid with rfl | hid
        · omega
        · obtain ⟨hlower, hupper⟩ := hwithin id hid
          exact ⟨by omega, hupper⟩

end Switchboard.Gateway
