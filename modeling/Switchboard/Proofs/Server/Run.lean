import Switchboard.Server
import Switchboard.Proofs.Reverse.Run
import Switchboard.Proofs.Stream.Hosting

/-!
# Run — a server in the course of time

A run of a server is a list of all that can be done to it and to the handlers that it hosts,
done one at a time: unary calls, streams, calls into the front end, the cache, and the
shutdown. What every operation keeps is `Kept`, and what it comes to for the streams is told
by `Follows`.
-/

namespace Switchboard.Server

/-! ## Operations -/

/-- One thing done to a server. -/
inductive Operation where
  | invoke (method : String) (payload : Bytes) (metadata : Metadata)
  | openStream (now : Instant) (shape : Shape) (method : String) (request : Bytes)
  | send (now : Instant) (id : SessionId) (chunk : Bytes)
  | closeInput (now : Instant) (id : SessionId)
  | close (now : Instant) (id : SessionId)
  | markReady (now : Instant) (id : SessionId)
  | expireIdle (now asOf : Instant) (timeout : Duration)
  | reap (now : Instant)
  | instruct (now : Instant) (id : SessionId) (i : Instruction)
  -- From now on somebody hears what the streams deliver, or nobody does.
  | setHeard (heard : Bool)
  | reverse (op : Reverse.Operation)
  | callFrontEnd (method : String) (payload : Bytes)
  | cacheGet (now : Instant) (store key : String)
  | cachePut (now : Instant) (store key : String) (value : Bytes) (ttlSeconds : Int)
  | cacheContains (now : Instant) (store key : String)
  | cacheDelete (store key : String)
  | shutdown (now : Instant)

def Operation.isShutdown : Operation → Bool
  | shutdown _ => true
  | _ => false

/-- The answer to an operation. -/
inductive Response where
  | replied (reply : Contained Reply)
  | opened (result : Contained (Except StreamError SessionId))
  | sent (result : Except StreamError SendStatus)
  | done (result : Except StreamError Unit)
  | counted (number : Nat)
  | atWork (working : Bool)
  | reversed (log : Reverse.Chronicle)
  | called (result : Reverse.Result)
  | fetched (result : Except CacheError (Option Bytes))
  | stored (result : Except CacheError Unit)
  | found (result : Except CacheError Bool)
  | stopped (report : ShutdownReport)
  | nothing

/-- An operation that makes no deliveries. -/
def quietly {α : Type} (f : α → Response) (r : α × Server) : Outcome Server Response :=
  { answer := f r.1, state := r.2 }

/-- The server under an operation. -/
def step (op : Operation) (s : Server) : Outcome Server Response :=
  match op with
  | .invoke method payload metadata =>
    { answer := .replied (s.invoke method payload metadata), state := s }
  | .openStream now shape method request =>
    match s.openStream now shape method request with
    | .done o => o.map fun result => .opened (.done result)
    | .escaped text => { answer := .opened (.escaped text), state := s }
  | .send now id chunk => (s.send now id chunk).map .sent
  | .closeInput now id => (s.closeInput now id).map .done
  | .close now id => (s.close now id).map .done
  | .markReady now id => (s.markReady now id).map .done
  | .expireIdle now asOf timeout => (s.expireIdle now asOf timeout).map .counted
  | .reap now => (s.reap now).map .counted
  | .instruct now id i => (s.instruct now id i).map .atWork
  | .setHeard heard => { answer := .nothing, state := s.setHeard heard }
  | .reverse op => quietly .reversed (s.onChannel (Reverse.Channel.perform op))
  | .callFrontEnd method payload => quietly (.called ·.1) (s.callFrontEnd method payload)
  | .cacheGet now store key => quietly .fetched (s.cacheGet now store key)
  | .cachePut now store key value ttlSeconds =>
    quietly .stored (s.cachePut now store key value ttlSeconds)
  | .cacheContains now store key =>
    { answer := .found (s.cacheContains now store key), state := s }
  | .cacheDelete store key => quietly .stored (s.cacheDelete store key)
  | .shutdown now => (s.shutdown now).map .stopped

/-- The server after operations, one after the other. -/
def after (ops : List Operation) (s : Server) : Server :=
  ops.foldl (fun s op => (s.step op).state) s

/-- All that is delivered in the course of a run. -/
def deliveries : List Operation → Server → List Delivery
  | [], _ => []
  | op :: ops, s => (s.step op).activity.deliveries ++ deliveries ops (s.step op).state

/-! ## What every operation keeps -/

variable {first : Nat} {s : Server} {op : Operation}

/-- What a server keeps true; once it is stopped, its streams are over. -/
structure Kept (first : Nat) (s : Server) : Prop where
  ordered : s.host.Ordered first
  over_of_stopped : s.stopped = true → s.host.manager.Over

/-- The operation keeps what is to be kept, and for the streams it leads from one moment to a
later one. -/
structure Sound {α : Type} (first : Nat) (s : Server) (o : Outcome Server α) : Prop where
  kept : o.state.Kept first
  follows : Manager.Follows s.host.manager o.state.host.manager o.activity.deliveries

theorem Sound.map {α β : Type} {o : Outcome Server α} (h : Sound first s o) (f : α → β) :
    Sound first s (o.map f) := ⟨h.kept, h.follows⟩

theorem sound_idle {α : Type} (hs : s.Kept first) (answer : α) :
    Sound first s { answer, state := s } := ⟨hs, .refl _⟩

/-- Whatever is done to the host, it is sound. -/
theorem sound_stream {α : Type} {o : Outcome Host α} (hs : s.Kept first)
    (ho : Host.Carried first s.host o) : Sound first s (s.stream o) := by
  have hfollows := ho.reaches.follows hs.ordered.regular
  refine ⟨⟨ho.ordered, fun hstopped => (hfollows.ended (hs.over_of_stopped hstopped)).1⟩, ?_⟩
  refine hfollows.sublist ?_
  unfold stream
  dsimp only
  split
  · exact List.Sublist.refl _
  · exact List.nil_sublist _

/-- What leaves the host alone is sound. -/
theorem sound_beside {α : Type} {s' : Server} (hs : s.Kept first) (hhost : s'.host = s.host)
    (hstopped : s'.stopped = s.stopped) (answer : α) :
    Sound first s { answer, state := s' } := by
  refine ⟨⟨hhost ▸ hs.ordered, fun h => ?_⟩, ?_⟩
  · rw [hhost]
    exact hs.over_of_stopped (hstopped ▸ h)
  · rw [hhost]
    exact .refl _

theorem stream_of_quiet {α : Type} (s : Server) (answer : α) (h : Host) :
    s.stream { answer, state := h } = { answer, state := { s with host := h } } := by
  unfold stream
  dsimp only
  split <;> rfl

/-- A stream that was asked for was opened by the host, or nothing was done. -/
theorem openStream_cases {now : Instant} {shape : Shape} {method : String} {request : Bytes}
    {o : Outcome Server (Except StreamError SessionId)}
    (ho : s.openStream now shape method request = .done o) :
    (∃ handler, o = s.stream (s.host.openSession now shape handler)) ∨
      ∃ e, o = { answer := .error e, state := s } := by
  unfold openStream at ho
  split at ho
  · cases ho
    exact .inr ⟨_, rfl⟩
  · cases hhandler : s.handlerFor shape method request with
    | escaped text =>
      rw [hhandler] at ho
      cases ho
    | done result =>
      rw [hhandler] at ho
      cases ho
      cases result with
      | error e => exact .inr ⟨_, rfl⟩
      | ok handler => exact .inl ⟨handler, rfl⟩

theorem sound_openStream (hs : s.Kept first) {now : Instant} {shape : Shape} {method : String}
    {request : Bytes} {o : Outcome Server (Except StreamError SessionId)}
    (ho : s.openStream now shape method request = .done o) : Sound first s o := by
  rcases openStream_cases ho with ⟨handler, rfl⟩ | ⟨e, rfl⟩
  · exact sound_stream hs (Host.carried_openSession now shape handler hs.ordered)
  · exact sound_idle hs _

theorem sound_expireIdle (hs : s.Kept first) (now asOf : Instant) (timeout : Duration) :
    Sound first s (s.expireIdle now asOf timeout) :=
  sound_stream hs (Host.carried_expireIdle now asOf timeout hs.ordered)

theorem sound_reap (hs : s.Kept first) (now : Instant) : Sound first s (s.reap now) := by
  unfold reap
  split
  · split
    · exact sound_idle hs _
    · exact sound_expireIdle hs now now _
  · exact sound_idle hs _

theorem sound_shutdown (hs : s.Kept first) (now : Instant) :
    Sound first s (s.shutdown now) := by
  unfold shutdown
  split
  · exact sound_idle hs _
  · obtain ⟨hkept, hfollows⟩ := sound_stream hs (Host.carried_shutdown now hs.ordered)
    exact ⟨⟨hkept.ordered, fun _ => (Host.shutdown_eq hs.ordered now).2.2⟩, hfollows⟩

/-- **Every operation is sound.** -/
theorem Kept.step (hs : s.Kept first) (op : Operation) : Sound first s (s.step op) := by
  cases op with
  | invoke | cacheContains => exact sound_idle hs _
  | openStream now shape method request =>
    simp only [Server.step]
    split
    · next ho => exact (sound_openStream hs ho).map _
    · exact sound_idle hs _
  | send now id chunk =>
    exact (sound_stream hs (Host.carried_send now id chunk hs.ordered)).map _
  | closeInput now id =>
    exact (sound_stream hs (Host.carried_closeInput now id hs.ordered)).map _
  | close now id => exact (sound_stream hs (Host.carried_close now id hs.ordered)).map _
  | markReady now id =>
    exact (sound_stream hs (Host.carried_markReady now id hs.ordered)).map _
  | expireIdle now asOf timeout => exact (sound_expireIdle hs now asOf timeout).map _
  | reap now => exact (sound_reap hs now).map _
  | instruct now id i =>
    exact (sound_stream hs (Host.carried_instruct now id i hs.ordered)).map _
  | setHeard heard =>
    refine ⟨⟨⟨hs.ordered.numbered.setHeard heard, hs.ordered.regular.setHeard heard, ?_⟩, ?_⟩,
      Manager.follows_setHeard heard _⟩
    · exact hs.ordered.aligned.trans (Manager.ids_setHeard heard _).symm
    · exact fun h => ((Manager.follows_setHeard heard _).ended (hs.over_of_stopped h)).1
  | reverse | callFrontEnd => exact sound_beside hs (by rfl) (by rfl) _
  | cacheGet now store key =>
    refine sound_beside hs ?_ ?_ _ <;> (unfold cacheGet; split <;> rfl)
  | cachePut now store key value ttlSeconds =>
    refine sound_beside hs ?_ ?_ _ <;> (unfold cachePut; split <;> rfl)
  | cacheDelete store key =>
    refine sound_beside hs ?_ ?_ _ <;> (unfold cacheDelete; split <;> rfl)
  | shutdown now => exact (sound_shutdown hs now).map _

theorem Kept.after (hs : s.Kept first) (ops : List Operation) : (s.after ops).Kept first := by
  induction ops generalizing s with
  | nil => exact hs
  | cons op ops ih => exact ih (hs.step op).kept

/-! ## Starting -/

variable {config : Config} {dispatcher : Dispatcher} {around : Surroundings}

/-- A server is started with no streams, and runs. -/
theorem host_start (h : start config dispatcher around = .ok s) :
    s.host = { manager :=
      { capacity := config.inputQueueCapacity, counter := around.sessions,
        heard := around.heard, hangUps := around.hangUps } } ∧ s.stopped = false := by
  unfold start at h
  cases hvalid : config.validate with
  | error e =>
    rw [hvalid] at h
    cases h
  | ok =>
    rw [hvalid] at h
    cases h
    exact ⟨rfl, rfl⟩

theorem kept_start (h : start config dispatcher around = .ok s) : s.Kept around.sessions.next := by
  obtain ⟨hhost, hrunning⟩ := host_start h
  refine ⟨?_, fun hstopped => absurd (hrunning.symm.trans hstopped) (by simp)⟩
  rw [hhost]
  exact ⟨⟨.nil, fun _ hid => absurd hid List.not_mem_nil, Nat.le_refl _⟩,
    fun _ ht => absurd ht List.not_mem_nil, rfl⟩

end Switchboard.Server
