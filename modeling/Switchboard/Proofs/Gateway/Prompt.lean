import Switchboard.Proofs.Gateway.Entry

/-!
# Prompt — what the interface has its server do

A server knows nothing of slots, pointers and statuses. Each operation of the gateway comes to
a list of prompts for the server that runs, most often to one, and to none if it is refused
before the server is asked. `mirrors_step` says that the prompts are all that happens to the
server, and that what it delivers on them is what the stream callback sees.
-/

namespace Switchboard

/-- One thing that the server is made to do. -/
inductive Gateway.Prompt where
  | perform (op : Server.Operation)
  -- From now on calls into the front end go to another sink.
  | redirect (sink : Reverse.Sink)

namespace Server

/-- The server after a prompt. -/
def prompt (p : Gateway.Prompt) (s : Server) : Server :=
  match p with
  | .perform op => (s.step op).state
  | .redirect sink => { s with channel := { s.channel with sink } }

/-- The server after prompts, one after the other. -/
def prompted (ps : List Gateway.Prompt) (s : Server) : Server := ps.foldl (fun s p => s.prompt p) s

/-- What the server delivers on a prompt. -/
def tells (p : Gateway.Prompt) (s : Server) : List Delivery :=
  match p with
  | .perform op => (s.step op).activity.deliveries
  | .redirect _ => []

/-- All that the server delivers on prompts. -/
def told : List Gateway.Prompt → Server → List Delivery
  | [], _ => []
  | p :: ps, s => s.tells p ++ told ps (s.prompt p)

theorem prompted_append (ps qs : List Gateway.Prompt) (s : Server) :
    s.prompted (ps ++ qs) = (s.prompted ps).prompted qs := List.foldl_append

theorem told_append (ps qs : List Gateway.Prompt) (s : Server) :
    s.told (ps ++ qs) = s.told ps ++ (s.prompted ps).told qs := by
  induction ps generalizing s with
  | nil => rfl
  | cons p ps ih =>
    rw [List.cons_append, told, ih, told, List.append_assoc]
    rfl

/-- An answer of the server as the front end is to read it. A success has the status zero and
an error the status of its kind. -/
def Response.reading : Response → Gateway.Reading
  | replied (.done (.payload bytes)) => .payload bytes
  | replied (.done .empty) => .payload []
  | replied (.done (.failed e)) => .failure e.message
  | replied (.escaped _) => .failure "panic at ffi boundary"
  | opened (.done (.ok id)) => .number id.number
  | opened (.done (.error e)) => .number (Status.ofStream e).code
  | opened (.escaped _) => .number Status.panicked.code
  | sent (.ok .accepted) => .number Status.ok.code
  | sent (.ok .blocked) => .other
  | sent (.error e) => .number (Status.ofStream e).code
  | done result => .number (Status.ofResult Status.ofStream result).code
  | reversed [.answered _ _ result] => .number (Status.ofResult Status.ofReverse result).code
  | fetched (.ok value) => .payload (value.getD [])
  | fetched (.error e) => .failure ("cache get failed: status " ++ toString (Status.ofCache e).code)
  | stored result => .number (Status.ofResult Status.ofCache result).code
  | found (.ok present) => .number (if present then 1 else 0)
  | found (.error e) => .number (Status.ofCache e).code
  | _ => .other

end Server

namespace Gateway

variable {g : Gateway} {s : Server} {op : Operation} {sop : Server.Operation} {ps : List Prompt}

/-! ## Prompts -/

/-- Callers wait for their calls. -/
def waits (ids : List RequestId) : List Prompt := ids.map fun id => .perform (.reverse (.wait id))

/-- The call that is made next, if it is answered from inside the forwarding. -/
def answeredAtOnce (method : String) (payload : Bytes) (c : Reverse.Channel) : List RequestId :=
  match (c.begin method payload).1.answer with
  | .error _ => []
  | .ok id =>
    if (((c.begin method payload).2.slot? id).bind (·.outcome)).isSome then [id] else []

/-- What an operation has the running server do. -/
def Operation.prompts (g : Gateway) (s : Server) (op : Operation) : List Prompt :=
  match op with
  | registerStreamCallback callback =>
    if g.streamCallback.isSome then [] else [.perform (.setHeard callback.isSome)]
  | registerReverseCallback callback =>
    if g.reverseCallback.isSome then [] else [.redirect (sinkOf callback)]
  | stop now => .perform (.shutdown now) :: waits g.callers
  | reap now => [.perform (.reap now)]
  | instruct now id i => if (s.host.task? id).isSome then [.perform (.instruct now id i)] else []
  | reverseCall method payload =>
    .perform (.reverse (.begin method payload)) ::
      waits (answeredAtOnce method payload s.channel)
  | deliver id data =>
    match data.bytes with
    | .error _ => []
    | .ok payload =>
      .perform (.reverse (.complete id payload)) ::
        match (s.channel.complete id payload).1 with
        | .error _ => []
        | .ok () => waits (g.callers.filter (· = id))
  | op =>
    match op.entry with
    | some (.ok sop) => [.perform sop]
    | _ => []

/-- What a run has the running server do. -/
def prompts : List Operation → Gateway → List Prompt
  | [], _ => []
  | op :: ops, g =>
    (match g.server with
      | some s => op.prompts g s
      | none => []) ++ prompts ops (g.step op).gateway

def Operation.isStop : Operation → Bool
  | stop _ => true
  | _ => false

def Operation.isDeliver : Operation → Bool
  | deliver _ _ => true
  | _ => false

/-! ## What the callback sees -/

/-- What the stream callback sees in the course of one crossing, read before anything is freed. -/
def Crossing.sights {α : Type} (c : Crossing α) : List Sight :=
  c.report.handed.map (·.sight c.gateway.ledger)

/-- What the stream callback sees in the course of a run, each delivery when it is handed over. -/
def seen : List Operation → Gateway → List Sight
  | [], _ => []
  | op :: ops, g => (g.step op).sights ++ seen ops (g.step op).gateway

/-! ## Callers that wait -/

theorem dismiss_eq (ids : List RequestId) (c : Reverse.Channel) :
    (dismiss ids c).2 = c.after (ids.map .wait) := by
  induction ids generalizing c with
  | nil => rfl
  | cons id ids ih => exact ih (c.wait id).2

theorem prompted_waits (ids : List RequestId) (s : Server) :
    s.prompted (waits ids) = { s with channel := s.channel.after (ids.map .wait) } := by
  induction ids generalizing s with
  | nil => rfl
  | cons id ids ih => exact ih (s.step (.reverse (.wait id))).state

theorem told_waits (ids : List RequestId) (s : Server) : s.told (waits ids) = [] := by
  induction ids generalizing s with
  | nil => rfl
  | cons id ids ih => exact ih (s.step (.reverse (.wait id))).state

/-- What does not look at the ledger is the same after handing over. -/
theorem same_handOver {α : Type} (view : Gateway → α)
    (hview : ∀ (g : Gateway) (ledger : Ledger), view { g with ledger } = view g) (g : Gateway)
    (ds : List Delivery) : view (g.handOver ds).2 = view g := by
  obtain ⟨ledger, hledger⟩ := handOver_eq g ds
  rw [hledger, hview]

/-! ## One operation -/

/-- The operation comes to prompts: they are all that happens to the server, and the callback
sees what the server delivers. The dispatcher and a callback that is there stay. -/
structure Mirrors (g : Gateway) (s : Server) (ps : List Prompt) (c : Crossing Response) :
    Prop where
  server : c.gateway.server = some (s.prompted ps)
  dispatcher : c.gateway.dispatcher = g.dispatcher
  streamCallback : g.streamCallback.isSome → c.gateway.streamCallback = g.streamCallback
  reverseCallback : g.reverseCallback.isSome → c.gateway.reverseCallback = g.reverseCallback
  sights : ∀ callback, g.streamCallback = some callback →
    c.sights = (s.told ps).map (.ofDelivery callback)

/-- Nothing is delivered, and the slots are as they were. -/
theorem mirrors_quietly {c : Crossing Response} (hserver : c.gateway.server = some (s.prompted ps))
    (htold : s.told ps = []) (hnothing : c.report.handed = [])
    (hdispatcher : c.gateway.dispatcher = g.dispatcher)
    (hstream : c.gateway.streamCallback = g.streamCallback)
    (hreverse : c.gateway.reverseCallback = g.reverseCallback) : Mirrors g s ps c := by
  refine ⟨hserver, hdispatcher, fun _ => hstream, fun _ => hreverse, fun _ _ => ?_⟩
  rw [Crossing.sights, hnothing, htold]
  rfl

/-- The server is asked for nothing. -/
theorem mirrors_nothing (hs : g.server = some s) {c : Crossing Response}
    (hreport : c.report = {}) (hgateway : ∃ ledger, c.gateway = { g with ledger }) :
    Mirrors g s [] c := by
  obtain ⟨ledger, hledger⟩ := hgateway
  refine mirrors_quietly ?_ rfl (by rw [hreport]) ?_ ?_ ?_ <;> rw [hledger]
  exact hs

theorem mirrors_idle (hs : g.server = some s) (answer : Response) :
    Mirrors g s [] { answer, gateway := g } := mirrors_nothing hs rfl ⟨g.ledger, rfl⟩

/-- What the server delivers is handed over. -/
theorem mirrors_after {α : Type} (hl : g.ledger.Sound) {o : Outcome Server α}
    (hstate : o.state = (s.step sop).state) (hactivity : o.activity = (s.step sop).activity)
    (f : α → Response) : Mirrors g s [.perform sop] ((g.after o).map f) := by
  refine ⟨(server_after g o).trans (congrArg some hstate), ?_, fun _ => ?_, fun _ => ?_,
    fun callback hcallback => ?_⟩
  · exact same_handOver Gateway.dispatcher (fun _ _ => rfl) _ _
  · exact same_handOver Gateway.streamCallback (fun _ _ => rfl) _ _
  · exact same_handOver Gateway.reverseCallback (fun _ _ => rfl) _ _
  · obtain ⟨-, hsights⟩ := sights_handOver (g := { g with server := some o.state }) hl hcallback
      o.activity.deliveries
    rw [Server.told, Server.told, List.append_nil, Server.tells, ← hactivity, ← hsights]
    rfl

/-! ## Entries -/

/-- The server does what a call asks for, and the front end reads its answer. -/
structure Serves (g : Gateway) (s : Server) (op : Operation) (sop : Server.Operation)
    (c : Crossing Response) : Prop extends Mirrors g s (op.prompts g s) c where
  reading : c.answer.reading c.gateway.ledger = (s.step sop).answer.reading

theorem prompts_of_ok (h : op.entry = some (.ok sop))
    (hdeliver : op.isDeliver = false) : op.prompts g s = [.perform sop] := by
  cases op with
  | deliver id data => cases hdeliver
  | invoke | openStream | send | closeInput | close | markReady =>
    simp only [Operation.prompts, h]
  | cacheGet | cachePut | cacheContains | cacheDelete => simp only [Operation.prompts, h]
  | _ => cases h

theorem prompts_of_error {status : Status} (h : op.entry = some (.error status)) :
    op.prompts g s = [] := by
  cases op with
  | deliver id data =>
    have hbytes := eq_error_of_map h
    simp only [Operation.prompts, hbytes]
  | invoke | openStream | send | closeInput | close | markReady =>
    simp only [Operation.prompts, h]
  | cacheGet | cachePut | cacheContains | cacheDelete => simp only [Operation.prompts, h]
  | _ => cases h

/-- What is asked of the server is answered by an outcome of the server. -/
theorem serves_after {α : Type} (hl : g.ledger.Sound) {o : Outcome Server α}
    (hprompts : op.prompts g s = [.perform sop])
    (hstate : o.state = (s.step sop).state) (hactivity : o.activity = (s.step sop).activity)
    (f : α → Response) (hreading : ∀ l, (f o.answer).reading l = (s.step sop).answer.reading) :
    Serves g s op sop ((g.after o).map f) :=
  ⟨hprompts ▸ mirrors_after hl hstate hactivity f, hreading _⟩

/-- What is asked of the server is answered without a delivery. -/
theorem serves_quietly {c : Crossing Response} (hprompts : op.prompts g s = [.perform sop])
    (hserver : c.gateway.server = some (s.step sop).state)
    (hquiet : (s.step sop).activity.deliveries = []) (hnothing : c.report.handed = [])
    (hdispatcher : c.gateway.dispatcher = g.dispatcher)
    (hstream : c.gateway.streamCallback = g.streamCallback)
    (hreverse : c.gateway.reverseCallback = g.reverseCallback)
    (hreading : c.answer.reading c.gateway.ledger = (s.step sop).answer.reading) :
    Serves g s op sop c := by
  have htold : s.told [.perform sop] = [] := (List.append_nil _).trans hquiet
  exact ⟨hprompts ▸ mirrors_quietly hserver htold hnothing hdispatcher hstream hreverse, hreading⟩

theorem serves_invoke (hl : g.ledger.Sound) (hs : g.server = some s) {method : CText}
    {data : Span} {metadata : Option Span}
    (h : (Operation.invoke method data metadata).entry = some (.ok sop)) :
    Serves g s (.invoke method data metadata) sop (g.step (.invoke method data metadata)) := by
  have hprompts := prompts_of_ok (g := g) (s := s) h rfl
  obtain ⟨⟨method, payload, metadata⟩, hargs, rfl⟩ := eq_ok_of_map h
  simp only [step, invoke, hargs, hs]
  cases hreply : s.invoke method payload metadata with
  | escaped text =>
    refine serves_quietly hprompts hs rfl rfl rfl rfl rfl ?_
    simp only [Server.step, hreply]
    exact hl.reading_failure "panic at ffi boundary"
  | done reply =>
    refine serves_quietly hprompts rfl rfl rfl rfl rfl rfl ?_
    simp only [Server.step, hreply]
    cases reply with
    | payload bs => exact hl.reading_success bs
    | empty => rfl
    | failed e => exact hl.reading_failure e.message

theorem serves_openStream (hl : g.ledger.Sound) (hs : g.server = some s) {now : Instant}
    {shape : Shape} {method : CText} {data : Span}
    (h : (Operation.openStream now shape method data).entry = some (.ok sop)) :
    Serves g s (.openStream now shape method data) sop
      (g.step (.openStream now shape method data)) := by
  have hprompts := prompts_of_ok (g := g) (s := s) h rfl
  have hcurrent := current_of_server hs
  obtain ⟨⟨method, request⟩, hargs, rfl⟩ := eq_ok_of_map h
  simp only [step, openStream, hargs, hcurrent]
  cases ho : s.openStream now shape method request with
  | escaped text =>
    refine serves_quietly hprompts ?_ ?_ rfl rfl rfl rfl ?_
    all_goals simp only [Server.step, ho]
    · exact hs
    · rfl
  | done o =>
    refine serves_after hl hprompts ?_ ?_ _ fun l => ?_
    all_goals simp only [Server.step, ho]
    · rfl
    · rfl
    · obtain ⟨answer, state, activity⟩ := o
      cases answer <;> rfl

theorem serves_send (hl : g.ledger.Sound) (hs : g.server = some s) {now : Instant}
    {id : SessionId} {data : Span} (h : (Operation.send now id data).entry = some (.ok sop)) :
    Serves g s (.send now id data) sop (g.step (.send now id data)) := by
  have hprompts := prompts_of_ok (g := g) (s := s) h rfl
  have hcurrent := current_of_server hs
  obtain ⟨chunk, hargs, rfl⟩ := eq_ok_of_map h
  simp only [step, send, hargs, hcurrent]
  refine serves_after hl hprompts ?_ ?_ _ fun l => ?_
  · rfl
  · rfl
  simp only [Server.step, Outcome.map]
  rcases (s.send now id chunk).answer with e | ⟨⟨⟩⟩ <;> rfl

theorem serves_onServer (hl : g.ledger.Sound) (hs : g.server = some s)
    {f : Server → Outcome Server (Except StreamError Unit)}
    (hprompts : op.prompts g s = [.perform sop]) (hstep : s.step sop = (f s).map .done) :
    Serves g s op sop ((g.onServer f).map .status) := by
  rw [onServer, current_of_server hs]
  exact serves_after hl hprompts (by rw [hstep]; rfl) (by rw [hstep]; rfl) _ fun _ => by
    rw [hstep]
    rfl

theorem serves_cacheGet (hl : g.ledger.Sound) (hs : g.server = some s) {now : Instant}
    {store key : CText} (h : (Operation.cacheGet now store key).entry = some (.ok sop)) :
    Serves g s (.cacheGet now store key) sop (g.step (.cacheGet now store key)) := by
  have hprompts := prompts_of_ok (g := g) (s := s) h rfl
  have hcurrent := current_of_server hs
  obtain ⟨storeName, keyName, rfl, hargs⟩ := cacheArguments_of_ok (Option.some.inj h)
  simp only [step, cacheGet, hargs, hcurrent, Except.map, refuse_eq]
  cases hresult : (s.cacheGet now storeName keyName).1 with
  | error e =>
    have hsame : (s.cacheGet now storeName keyName).2 = s := by
      unfold Server.cacheGet at hresult ⊢
      split at hresult
      · rfl
      · cases hresult
    refine serves_quietly hprompts ?_ rfl rfl rfl rfl rfl ?_
    · exact hs.trans (congrArg some hsame.symm)
    · simp only [Server.step, Server.quietly, hresult]
      exact hl.reading_failure _
  | ok value =>
    refine serves_quietly hprompts rfl rfl rfl rfl rfl rfl ?_
    simp only [Server.step, Server.quietly, hresult]
    exact hl.reading_success _

theorem serves_cachePut (hs : g.server = some s) {now : Instant} {store key : CText}
    {data : Span} {ttlSeconds : Int}
    (h : (Operation.cachePut now store key data ttlSeconds).entry = some (.ok sop)) :
    Serves g s (.cachePut now store key data ttlSeconds) sop
      (g.step (.cachePut now store key data ttlSeconds)) := by
  have hprompts := prompts_of_ok (g := g) (s := s) h rfl
  have hcurrent := current_of_server hs
  obtain ⟨value, storeName, keyName, hbytes, rfl, hargs⟩ := eq_ok_of_put h
  simp only [step, cachePut, hbytes, hargs, hcurrent, Except.map]
  exact serves_quietly hprompts rfl rfl rfl rfl rfl rfl rfl

theorem serves_cacheContains (hs : g.server = some s) {now : Instant} {store key : CText}
    (h : (Operation.cacheContains now store key).entry = some (.ok sop)) :
    Serves g s (.cacheContains now store key) sop (g.step (.cacheContains now store key)) := by
  have hprompts := prompts_of_ok (g := g) (s := s) h rfl
  have hcurrent := current_of_server hs
  obtain ⟨storeName, keyName, rfl, hargs⟩ := cacheArguments_of_ok (Option.some.inj h)
  simp only [step, cacheContains, hargs, hcurrent, Except.map]
  refine serves_quietly hprompts hs rfl rfl rfl rfl rfl ?_
  simp only [Server.step]
  cases s.cacheContains now storeName keyName <;> rfl

theorem serves_cacheDelete (hs : g.server = some s) {store key : CText}
    (h : (Operation.cacheDelete store key).entry = some (.ok sop)) :
    Serves g s (.cacheDelete store key) sop (g.step (.cacheDelete store key)) := by
  have hprompts := prompts_of_ok (g := g) (s := s) h rfl
  have hcurrent := current_of_server hs
  obtain ⟨storeName, keyName, rfl, hargs⟩ := cacheArguments_of_ok (Option.some.inj h)
  simp only [step, cacheDelete, hargs, hcurrent, Except.map]
  exact serves_quietly hprompts rfl rfl rfl rfl rfl rfl rfl

/-- An answer that is accepted wakes the caller that waits for it. -/
theorem serves_deliver (hs : g.server = some s) {id : RequestId} {data : Span}
    (h : (Operation.deliver id data).entry = some (.ok sop)) :
    Serves g s (.deliver id data) sop (g.step (.deliver id data)) := by
  have hcurrent := current_of_server hs
  obtain ⟨payload, hargs, rfl⟩ := eq_ok_of_map h
  have hprompts : (Operation.deliver id data).prompts g s =
      .perform (.reverse (.complete id payload)) ::
        match (s.channel.complete id payload).1 with
        | .error _ => []
        | .ok () => waits (g.callers.filter (· = id)) := by
    simp only [Operation.prompts, hargs]
  simp only [step, deliver, hargs, hcurrent]
  cases hresult : (s.channel.complete id payload).1 with
  | error e =>
    have hsame := Reverse.Channel.complete_of_error hresult
    refine ⟨?_, ?_⟩
    · rw [hprompts, hresult]
      refine mirrors_quietly ?_ rfl rfl rfl rfl rfl
      show g.server = some { s with channel := (s.channel.complete id payload).2 }
      rw [hsame]
      exact hs
    · simp only [Server.step, Server.quietly, Server.onChannel, Reverse.Channel.perform, hresult]
      rfl
  | ok =>
    refine ⟨?_, ?_⟩
    · rw [hprompts, hresult]
      refine mirrors_quietly ?_ ?_ rfl rfl rfl rfl
      · rw [Server.prompted, List.foldl_cons]
        refine Eq.trans ?_ (congrArg some (prompted_waits _ _).symm)
        rw [← dismiss_eq]
        rfl
      · rw [Server.told, told_waits]
        rfl
    · simp only [Server.step, Server.quietly, Server.onChannel, Reverse.Channel.perform, hresult]
      rfl

/-- **What is asked of a server that runs, the server does and answers.** -/
theorem serves_entry (hl : g.ledger.Sound) (hs : g.server = some s)
    (h : op.entry = some (.ok sop)) : Serves g s op sop (g.step op) := by
  cases op with
  | invoke => exact serves_invoke hl hs h
  | openStream => exact serves_openStream hl hs h
  | send => exact serves_send hl hs h
  | closeInput | close | markReady =>
    have hprompts := prompts_of_ok (g := g) (s := s) h rfl
    cases h
    exact serves_onServer hl hs hprompts rfl
  | deliver => exact serves_deliver hs h
  | cacheGet => exact serves_cacheGet hl hs h
  | cachePut => exact serves_cachePut hs h
  | cacheContains => exact serves_cacheContains hs h
  | cacheDelete => exact serves_cacheDelete hs h
  | _ => cases h

/-! ## Everything else -/

theorem mirrors_registerStreamCallback (hs : g.server = some s)
    (callback : Option StreamCallback) :
    Mirrors g s ((Operation.registerStreamCallback callback).prompts g s)
      (g.step (.registerStreamCallback callback)) := by
  simp only [step, registerStreamCallback, Operation.prompts, running, hs, Option.isSome_some,
    Bool.and_true]
  by_cases hfull : g.streamCallback.isSome = true
  · rw [if_pos hfull, if_pos hfull]
    exact mirrors_idle hs _
  · rw [if_neg hfull, if_neg hfull]
    refine ⟨rfl, rfl, fun hthere => absurd hthere hfull, fun _ => rfl, fun _ hthere => ?_⟩
    exact absurd (Option.isSome_of_eq_some hthere) hfull

theorem mirrors_registerReverseCallback (hs : g.server = some s)
    (callback : Option ReverseCallback) :
    Mirrors g s ((Operation.registerReverseCallback callback).prompts g s)
      (g.step (.registerReverseCallback callback)) := by
  simp only [step, registerReverseCallback, Operation.prompts, running, hs, Option.isSome_some,
    Bool.and_true]
  by_cases hfull : g.reverseCallback.isSome = true
  · rw [if_pos hfull, if_pos hfull]
    exact mirrors_idle hs _
  · rw [if_neg hfull, if_neg hfull]
    exact ⟨rfl, rfl, fun _ => rfl, fun hthere => absurd hthere hfull, fun _ _ => rfl⟩

theorem start_of_running (hs : g.server = some s) (settings : Option Settings) :
    (g.start settings).2 = g := by
  unfold start running
  rw [hs]
  repeat' split
  all_goals first | rfl | contradiction

/-- Nothing is heard of a server that was stopped. -/
theorem mirrors_instruct (hg : g.Orderly) (hl : g.ledger.Sound) (hs : g.server = some s)
    (now : Instant) (id : SessionId) (i : Instruction) :
    Mirrors g s ((Operation.instruct now id i).prompts g s) (g.step (.instruct now id i)) := by
  simp only [step, instruct, Operation.prompts]
  by_cases hatWork : (s.host.task? id).isSome = true
  · have hserver : g.server.filter (fun s => (s.host.task? id).isSome) = some s := by
      rw [hs, Option.filter_some, if_pos hatWork]
    rw [if_pos hatWork, hserver]
    refine mirrors_after hl ?_ ?_ _
    · rfl
    · rfl
  · have hserver : g.server.filter (fun s => (s.host.task? id).isSome) = none := by
      rw [hs, Option.filter_some, if_neg hatWork]
    obtain ⟨-, hnothing⟩ := former_instructFormer now id i hg.former
    rw [if_neg hatWork, hserver]
    dsimp only
    rw [hnothing]
    exact mirrors_quietly hs rfl rfl rfl rfl rfl

/-- A caller that has its answer on the spot has waited for it. -/
theorem mirrors_reverseCall (hs : g.server = some s) (method : String) (payload : Bytes) :
    Mirrors g s ((Operation.reverseCall method payload).prompts g s)
      (g.step (.reverseCall method payload)) := by
  -- Whatever became of the call, it is between the channel and the callback.
  have hbeside : ∀ (channel : Reverse.Channel) (rs : List Reverse.Request)
      (callers : List RequestId) (answer : Response) (report : Report) (ids : List RequestId),
      report.handed = [] →
      channel = (s.channel.begin method payload).2.after (ids.map .wait) →
      Mirrors g s (.perform (.reverse (.begin method payload)) :: waits ids)
        { answer, report
          gateway := { (handCalls { g with server := some { s with channel } } rs).2 with
            callers } } := by
    intro channel rs callers answer report ids hnothing hchannel
    obtain ⟨ledger, hledger⟩ := handCalls_eq { g with server := some { s with channel } } rs
    rw [hledger]
    refine mirrors_quietly ?_ ?_ hnothing rfl rfl rfl
    · rw [Server.prompted, List.foldl_cons, hchannel]
      have hwaited := prompted_waits ids (s.step (.reverse (.begin method payload))).state
      exact congrArg some hwaited.symm
    · rw [Server.told, told_waits]
      rfl
  simp only [step, reverseCall, hs, Operation.prompts, answeredAtOnce]
  cases hanswer : (s.channel.begin method payload).1.answer with
  | error e =>
    refine hbeside _ _ _ _ _ [] ?_ ?_
    · rfl
    · rfl
  | ok id =>
    dsimp only
    cases houtcome : ((s.channel.begin method payload).2.slot? id).bind (·.outcome) with
    | none =>
      refine hbeside _ _ _ _ _ [] ?_ ?_
      · rfl
      · rfl
    | some result =>
      obtain ⟨slot, hslot, -⟩ := Option.bind_eq_some_iff.mp houtcome
      refine hbeside _ _ _ _ _ [id] ?_ ?_
      · rfl
      · show _ = ((s.channel.begin method payload).2.wait id).2
        rw [Reverse.Channel.wait, hslot]

/-- **The prompts are all that happens to the server**, whatever is done but stopping it. -/
theorem mirrors_step (hg : g.Orderly) (hl : g.ledger.Sound) (hs : g.server = some s)
    (hop : op.isStop = false) : Mirrors g s (op.prompts g s) (g.step op) := by
  cases hentry : op.entry with
  | some asked =>
    cases asked with
    | error status =>
      rw [prompts_of_error hentry]
      have hrefused := refused_of_error hl hentry
      exact mirrors_nothing hs hrefused.report hrefused.gateway
    | ok sop => exact (serves_entry hl hs hentry).toMirrors
  | none =>
    cases op with
    | stop now => cases hop
    | register dispatcher =>
      simp only [step, register, running, hs, Option.isSome_some, if_true]
      exact mirrors_idle hs _
    | takeDispatcher =>
      simp only [step, takeDispatcher, running, hs, Option.isSome_some, if_true]
      exact mirrors_idle hs _
    | registerStreamCallback callback => exact mirrors_registerStreamCallback hs callback
    | registerReverseCallback callback => exact mirrors_registerReverseCallback hs callback
    | start settings =>
      refine mirrors_nothing hs rfl ⟨g.ledger, ?_⟩
      exact start_of_running hs settings
    | reap now =>
      simp only [step, reap, hs]
      refine mirrors_after hl ?_ ?_ _
      · rfl
      · rfl
    | instruct now id i => exact mirrors_instruct hg hl hs now id i
    | reverseCall method payload => exact mirrors_reverseCall hs method payload
    | free p => exact mirrors_nothing hs rfl ⟨g.ledger.release p, rfl⟩
    | lastPanicMessage => exact mirrors_idle hs _
    | _ => cases hentry

/-! ## A run -/

/-- What `Mirrors` says of one operation, of a run. -/
structure Tracks (g : Gateway) (s : Server) (ops : List Operation) : Prop where
  server : (g.run ops).server = some (s.prompted (prompts ops g))
  dispatcher : (g.run ops).dispatcher = g.dispatcher
  streamCallback : g.streamCallback.isSome → (g.run ops).streamCallback = g.streamCallback
  reverseCallback : g.reverseCallback.isSome → (g.run ops).reverseCallback = g.reverseCallback
  sights : ∀ callback, g.streamCallback = some callback →
    seen ops g = (s.told (prompts ops g)).map (.ofDelivery callback)

theorem tracks_run (hg : g.Orderly) (hl : g.ledger.Sound) (hs : g.server = some s)
    {ops : List Operation} (hops : ∀ op ∈ ops, op.isStop = false) : Tracks g s ops := by
  induction ops generalizing g s with
  | nil => exact ⟨hs, rfl, fun _ => rfl, fun _ => rfl, fun _ _ => rfl⟩
  | cons op ops ih =>
    obtain ⟨hop, hlater⟩ := List.forall_mem_cons.mp hops
    have hnow := mirrors_step hg hl hs hop
    have hrest := ih (hg.step op).orderly (sound_ledger_step hl op) hnow.server hlater
    have hprompts : prompts (op :: ops) g = op.prompts g s ++ prompts ops (g.step op).gateway := by
      rw [prompts, hs]
    refine ⟨?_, hrest.dispatcher.trans hnow.dispatcher, fun hthere => ?_, fun hthere => ?_,
      fun callback hcallback => ?_⟩
    · rw [hprompts, Server.prompted_append]
      exact hrest.server
    · have hstays := hnow.streamCallback hthere
      exact (hrest.streamCallback (hstays ▸ hthere)).trans hstays
    · have hstays := hnow.reverseCallback hthere
      exact (hrest.reverseCallback (hstays ▸ hthere)).trans hstays
    · have hstays := hnow.streamCallback (Option.isSome_of_eq_some hcallback)
      rw [seen, hprompts, Server.told_append, List.map_append, hnow.sights callback hcallback,
        hrest.sights callback (hstays.trans hcallback)]

/-! ## Stopping -/

/-- The server comes to its end, and goes where the others are that were stopped. -/
structure Halts (g : Gateway) (s : Server) (ps : List Prompt) (c : Crossing Status) : Prop where
  answer : c.answer = .ok
  server : c.gateway.server = none
  former : c.gateway.former = s.prompted ps :: g.former
  dispatcher : c.gateway.dispatcher = g.dispatcher
  sights : ∀ callback, g.streamCallback = some callback →
    c.sights = (s.told ps).map (.ofDelivery callback)

theorem halts_stop (hl : g.ledger.Sound) (hs : g.server = some s) (now : Instant) :
    Halts g s ((Operation.stop now).prompts g s) (g.stop now) := by
  have hlast : { (s.shutdown now).state with
        channel := (dismiss g.callers (s.shutdown now).state.channel).2 } =
      s.prompted ((Operation.stop now).prompts g s) := by
    rw [dismiss_eq]
    exact (prompted_waits g.callers (s.step (.shutdown now)).state).symm
  have htold : s.told ((Operation.stop now).prompts g s) =
      (s.shutdown now).activity.deliveries := by
    show _ ++ _ = _
    rw [told_waits, List.append_nil]
    rfl
  unfold stop
  rw [hs]
  dsimp only
  rw [hlast]
  refine ⟨rfl, ?_, ?_, ?_, fun callback hcallback => ?_⟩
  · exact same_handOver Gateway.server (fun _ _ => rfl) _ _
  · exact same_handOver Gateway.former (fun _ _ => rfl) _ _
  · exact same_handOver Gateway.dispatcher (fun _ _ => rfl) _ _
  · rw [htold]
    refine (sights_handOver ?_ ?_ _).2
    · exact hl
    · exact hcallback

end Gateway
end Switchboard
