import Switchboard.Proofs.Gateway.Closed
import Switchboard.Proofs.Gateway.Slots
import Switchboard.Proofs.Server.Refusal
import Switchboard.Proofs.Stream.Conversation

/-!
# Exchange — a conversation from the opening to the last frame

The front end opens a stream on one of the two methods of the scripted router that take input,
sends chunks, closes the input, and signals readiness somewhere in between. After each of these
the front end has heard all that the handler says to what was sent so far, if it is ready, and
nothing otherwise.
-/

namespace Switchboard

/-! ## What the front end does -/

/-- One thing that the front end does in a conversation. -/
inductive Signal where
  | send (now : Instant) (chunk : Bytes)
  | closeInput (now : Instant)
  | ready (now : Instant)

namespace Signal

/-- What the handler hears: a chunk, or the end of the input. -/
def input? : Signal → Option (Option Bytes)
  | send _ chunk => some (some chunk)
  | closeInput _ => some none
  | ready _ => none

/-- Whether the front end signals that it is ready. -/
def isReady : Signal → Bool
  | ready _ => true
  | _ => false

/-- The signal as an operation on a session. -/
def on (id : SessionId) : Signal → Server.Operation
  | send now chunk => .send now id chunk
  | closeInput now => .closeInput now id
  | ready now => .markReady now id

/-- The answer to one that was granted on the spot. -/
def granted : Signal → Server.Response
  | send .. => .sent (.ok .accepted)
  | closeInput _ | ready _ => .done (.ok ())

end Signal

namespace Fixture

open Host (Has)
open Session (aired)

variable {f : Fixture} {first : Nat} {id : SessionId} {ready : Bool}
  {inputs : List (Option Bytes)} {s s' : Server}

/-! ## One signal -/

/-- How a server stands in the middle of a conversation. -/
structure Talks (f : Fixture) (first : Nat) (id : SessionId) (ready : Bool)
    (inputs : List (Option Bytes)) (s : Server) : Prop where
  kept : s.Kept first
  heard : s.heard = true
  converses : ∃ x t, s.host.Has id x t ∧ f.Converses ready inputs x t

/-- One signal: it is granted, and the front end hears what it has not heard before. -/
structure Advances (f : Fixture) (first : Nat) (id : SessionId) (ready : Bool)
    (inputs : List (Option Bytes)) (signal : Signal) (o : Outcome Server Server.Response) :
    Prop where
  talks : f.Talks first id (signal.isReady || ready) (inputs ++ signal.input?.toList) o.state
  granted : o.answer = signal.granted
  heard :
    (aired (signal.isReady || ready) (f.speech (inputs ++ signal.input?.toList))).map (⟨id, ·⟩) =
      (aired ready (f.speech inputs)).map (⟨id, ·⟩) ++ o.activity.deliveries

theorem activity_stream {α : Type} (hheard : s.heard = true) (o : Outcome Host α) :
    (s.stream o).activity = o.activity := if_pos hheard

/-- A signal of which the manager makes so much, and the handler then so much more. -/
theorem Talks.advances_of_goes (h : f.Talks first id ready inputs s) (signal : Signal) {α : Type}
    {now : Instant} (op : Manager → Outcome Manager α) {respond : α → Server.Response}
    {t u : Task} {x x' : Session} (fronted : List Frame) {frames : List Frame}
    (hstep : s.step (signal.on id) = (s.stream (s.host.perform now id op)).map respond)
    (hanswer : respond (op s.host.manager).answer = signal.granted)
    (hkeeps : (op s.host.manager).state.heard = s.host.manager.heard)
    (hmade : (op s.host.manager).activity.deliveries = fronted.map (⟨id, ·⟩))
    (htask : s.host.task? id = some t) (hfind : (op s.host.manager).state.find? id = some x)
    (hgoes : Task.Goes now t x u x' frames)
    (hconverses : f.Converses (signal.isReady || ready) (inputs ++ signal.input?.toList) x' u)
    (haired : aired (signal.isReady || ready) (f.speech (inputs ++ signal.input?.toList)) =
      aired ready (f.speech inputs) ++ (fronted ++ frames)) :
    f.Advances first id ready inputs signal (s.step (signal.on id)) := by
  obtain ⟨hhas, hmore, hheard⟩ := Host.perform_of_goes htask hfind hgoes
  have hkept := (h.kept.step (signal.on id)).kept
  rw [hstep] at hkept ⊢
  refine ⟨⟨hkept, ?_, x', u, hhas, hconverses⟩, hanswer, ?_⟩
  · exact hheard.trans (hkeeps.trans h.heard)
  · rw [haired, List.map_append, List.map_append, ← hmade, ← hmore]
    show _ = _ ++ (s.stream _).activity.deliveries
    rw [activity_stream h.heard]

theorem Talks.advances_send (h : f.Talks first id ready inputs s) (hopen : none ∉ inputs)
    (now : Instant) (chunk : Bytes) :
    f.Advances first id ready inputs (.send now chunk) (s.step (.send now id chunk)) := by
  obtain ⟨x, t, hhas, hconverses⟩ := h.converses
  have hlistening := hconverses.listening_of_unended hopen
  obtain ⟨x₁, x₂, u, frames, hsend, hgoes, hlistening', haired⟩ := hlistening.send now chunk
  have hlive := hhas.live?_of_live hlistening.live
  have hdone : s.host.manager.send now id chunk =
      s.host.manager.commit (.ok .accepted) (.still x₁) := by
    rw [Manager.send, Manager.lookup_of_live hlive]
    dsimp only
    rw [hsend]
    rfl
  refine h.advances_of_goes (.send now chunk) (Manager.send now id chunk) [] rfl ?_ ?_ ?_
    hhas.task ?_ hgoes (.listening hlistening') haired
  all_goals rw [hdone]
  · rfl
  · rfl
  · rfl
  · exact Manager.find?_put hhas.session (Session.id_send hsend)

theorem Talks.advances_closeInput (h : f.Talks first id ready inputs s) (hopen : none ∉ inputs)
    (now : Instant) :
    f.Advances first id ready inputs (.closeInput now) (s.step (.closeInput now id)) := by
  obtain ⟨x, t, hhas, hconverses⟩ := h.converses
  have hlistening := hconverses.listening_of_unended hopen
  obtain ⟨x₂, u, frames, hgoes, hended, haired⟩ := hlistening.closeInput now
  have hlive := hhas.live?_of_live hlistening.live
  have hdone : s.host.manager.closeInput now id =
      s.host.manager.commit (.ok ()) (.still (x.closeInput now)) := Manager.onLive_of_live hlive
  refine h.advances_of_goes (.closeInput now) (Manager.closeInput now id) [] rfl ?_ ?_ ?_
    hhas.task ?_ hgoes (.ended hended) haired
  all_goals rw [hdone]
  · rfl
  · rfl
  · rfl
  · exact Manager.find?_put hhas.session (Session.id_closeInput now x)

theorem Talks.issued (h : f.Talks first id ready inputs s) (hfirst : 0 < first) :
    s.host.manager.counter.issued id.number = true := by
  obtain ⟨x, t, hhas, -⟩ := h.converses
  obtain rfl := Manager.id_of_find? hhas.session
  exact Manager.issued_of_mem h.kept.ordered.numbered hfirst
    (List.mem_map_of_mem (Manager.mem_sessions_of_find? hhas.session))

/-- The signal is granted while the session is live, and once it is over, when it does nothing. -/
theorem granted_markReady {h : Host} {x : Session} {t : Task} (hhas : h.Has id x t)
    (hconverses : f.Converses ready inputs x t)
    (hissued : h.manager.counter.issued id.number = true) (now : Instant) :
    let o := h.manager.markReady now id
    o.answer = .ok () ∧ o.state.heard = h.manager.heard ∧
      ∃ x' frames, o.activity.deliveries = frames.map (⟨id, ·⟩) ∧ o.state.find? id = some x' ∧
        f.Converses true inputs x' t ∧
        aired true (f.speech inputs) = aired ready (f.speech inputs) ++ frames := by
  intro o
  cases hlive : x.live with
  | true =>
    obtain ⟨x', frames, hmark, hconverses', haired⟩ := hconverses.markReady now
    have hid : x'.id = x.id := by
      rw [← Session.id_markReady now x, hmark]
    have ho : o = h.manager.commit (.ok ()) { session := x', frames } :=
      hmark ▸ Manager.onLive_of_live (hhas.live?_of_live hlive)
    rw [ho]
    refine ⟨rfl, rfl, x', frames, ?_, Manager.find?_put hhas.session hid, hconverses', haired⟩
    show frames.map (fun frame => (⟨x'.id, frame⟩ : Delivery)) = _
    rw [hid, Manager.id_of_find? hhas.session]
  | false =>
    -- A session that is over has been heard to the end, so nothing is pending.
    obtain rfl := hconverses.ready_of_retired hlive
    have ho : o = { answer := .ok (), state := h.manager } := by
      refine (Manager.onLive_of_retired (hhas.live?_of_retired hlive)).trans ?_
      rw [Manager.verdict, if_pos hissued]
    rw [ho]
    exact ⟨rfl, rfl, x, [], rfl, hhas.session, hconverses, (List.append_nil _).symm⟩

theorem Talks.advances_ready (h : f.Talks first id ready inputs s) (hfirst : 0 < first)
    (now : Instant) :
    f.Advances first id ready inputs (.ready now) (s.step (.markReady now id)) := by
  obtain ⟨x, t, hhas, hconverses⟩ := h.converses
  have hinputs : inputs ++ (Signal.ready now).input?.toList = inputs := List.append_nil inputs
  obtain ⟨hanswer, hkeeps, x', frames, hmade, hfind, hconverses', haired⟩ :=
    granted_markReady hhas hconverses (h.issued hfirst) now
  refine h.advances_of_goes (.ready now) (Manager.markReady now id) frames rfl
    (congrArg Server.Response.done hanswer) hkeeps hmade hhas.task hfind
    (hconverses'.rests now) ?_ ?_
  · rw [hinputs]
    exact hconverses'
  · rw [hinputs, List.append_nil]
    exact haired

theorem Talks.advances (h : f.Talks first id ready inputs s) (hfirst : 0 < first) (signal : Signal)
    (hopen : signal.input?.isSome = true → none ∉ inputs) :
    f.Advances first id ready inputs signal (s.step (signal.on id)) := by
  cases signal with
  | send now chunk => exact h.advances_send (hopen rfl) now chunk
  | closeInput now => exact h.advances_closeInput (hopen rfl) now
  | ready now => exact h.advances_ready hfirst now

/-! ## A run -/

/-- A signal that the handler is to hear comes before the end of the input. -/
theorem unended_of_inputs {chunks : List Bytes} {signal : Signal} {signals : List Signal}
    (hinputs : inputs ++ (signal :: signals).filterMap Signal.input? <+: chunks.map some ++ [none])
    (hsome : signal.input?.isSome = true) : none ∉ inputs := by
  obtain ⟨input, hinput⟩ := Option.isSome_iff_exists.mp hsome
  obtain ⟨rest, hrest⟩ := hinputs
  rw [List.filterMap_cons_some hinput, List.append_assoc] at hrest
  -- The signal has the last input of the script at the latest, so those before it are chunks.
  have hdropped := congrArg List.dropLast hrest
  rw [List.dropLast_append_of_ne_nil (by simp), List.dropLast_concat] at hdropped
  intro hmem
  have hchunk : none ∈ chunks.map some := hdropped ▸ List.mem_append_left _ hmem
  simp at hchunk

/-- A run of signals brings the conversation so much further. -/
theorem Talks.run (h : f.Talks first id ready inputs s) (hfirst : 0 < first) {chunks : List Bytes}
    {signals : List Signal}
    (hinputs : inputs ++ signals.filterMap Signal.input? <+: chunks.map some ++ [none]) :
    f.Talks first id (signals.any (·.isReady) || ready) (inputs ++ signals.filterMap Signal.input?)
      (s.after (signals.map (·.on id))) ∧
    (aired (signals.any (·.isReady) || ready)
        (f.speech (inputs ++ signals.filterMap Signal.input?))).map (⟨id, ·⟩) =
      (aired ready (f.speech inputs)).map (⟨id, ·⟩) ++ s.deliveries (signals.map (·.on id)) := by
  induction signals generalizing s ready inputs with
  | nil =>
    simp only [List.filterMap_nil, List.append_nil, List.any_nil, Bool.false_or]
    exact ⟨h, (List.append_nil _).symm⟩
  | cons signal signals ih =>
    have hall : inputs ++ (signal :: signals).filterMap Signal.input? =
        (inputs ++ signal.input?.toList) ++ signals.filterMap Signal.input? := by
      cases hinput : signal.input? <;> simp [hinput]
    have hany : ((signal :: signals).any (·.isReady) || ready) =
        (signals.any (·.isReady) || (signal.isReady || ready)) := by
      rw [List.any_cons, Bool.or_comm signal.isReady, Bool.or_assoc]
    have hadvances := h.advances hfirst signal (unended_of_inputs hinputs)
    rw [hall] at hinputs
    obtain ⟨htalks, hheard⟩ := ih hadvances.talks hinputs
    rw [hall, hany]
    refine ⟨htalks, ?_⟩
    rw [hheard, hadvances.heard, List.append_assoc]
    rfl

/-- How a conversation stands after the first so many signals, and what was heard. -/
theorem Talks.part (h : f.Talks first id false [] s) (hfirst : 0 < first) {chunks : List Bytes}
    {signals before rest : List Signal}
    (hinputs : signals.filterMap Signal.input? = chunks.map some ++ [none])
    (hsignals : signals = before ++ rest) :
    f.Talks first id (before.any (·.isReady)) (before.filterMap Signal.input?)
        (s.after (before.map (·.on id))) ∧
      s.deliveries (before.map (·.on id)) =
        (aired (before.any (·.isReady)) (f.speech (before.filterMap Signal.input?))).map
          (⟨id, ·⟩) := by
  have hpart : [] ++ before.filterMap Signal.input? <+: chunks.map some ++ [none] := by
    rw [← hinputs, hsignals, List.filterMap_append]
    exact List.prefix_append _ _
  obtain ⟨htalks, hmade⟩ := h.run hfirst hpart
  rw [Bool.or_false] at htalks hmade
  exact ⟨htalks, hmade.symm⟩

/-! ## The opening -/

theorem openStream_scripted (f : Fixture) (request : Bytes) :
    Sample.scripted.dispatcher.openStream f.shape f.method request =
      .returned (.ok f.handler) := by
  cases f <;> rfl

/-- A server that runs opens the stream, and the handler waits for input. -/
theorem talks_openStream (hkept : s.Kept first) (hready : s.Ready) (hrunning : s.stopped = false)
    (hscripted : s.dispatcher = Sample.scripted.dispatcher) (hheard : s.heard = true)
    (hid : id = ⟨s.host.manager.counter.next⟩)
    (hcalm : ∀ hangUp ∈ s.host.manager.hangUps, hangUp.1 ≠ id) (f : Fixture) (now : Instant)
    (request : Bytes) :
    let o := s.step (.openStream now f.shape f.method request)
    o.answer = .opened (.done (.ok id)) ∧ o.activity.deliveries = [] ∧
      f.Talks first id false [] o.state := by
  intro o
  have hlistening := f.listening_fresh id s.host.manager.capacity now
  have hfresh : Session.fresh id f.shape s.host.manager.capacity s.host.manager.heard
      ((s.host.manager.hangUps.filter (·.1 = id)).map (·.2)) now =
      Session.fresh id f.shape s.host.manager.capacity true [] now := by
    have hnone : s.host.manager.hangUps.filter (·.1 = id) = [] :=
      List.filter_eq_nil_iff.mpr fun hangUp hmem => by simp [hcalm hangUp hmem]
    rw [hnone, show s.host.manager.heard = true from hheard]
    rfl
  rw [← hfresh] at hlistening
  obtain ⟨hanswer, hhas, hmade, hheard'⟩ :=
    Host.openSession_of_goes hkept.ordered (hready.opens hrunning) hid (hlistening.waits now)
  have hhandler : s.handlerFor f.shape f.method request = .done (.ok f.handler) := by
    rw [Server.handlerFor, hscripted, openStream_scripted]
    rfl
  have hopened : s.openStream now f.shape f.method request =
      .done (s.stream (s.host.openSession now f.shape f.handler)) := by
    rw [Server.openStream, if_neg (by simp [hrunning]), hhandler]
    rfl
  have ho : o = (s.stream (s.host.openSession now f.shape f.handler)).map
      fun result => .opened (.done result) := by
    show s.step _ = _
    rw [Server.step, hopened]
  have hkept' : o.state.Kept first := (hkept.step _).kept
  rw [ho] at hkept' ⊢
  refine ⟨?_, ?_, hkept', hheard'.trans hheard, _, _, hhas, .listening hlistening⟩
  · show Server.Response.opened (.done (s.host.openSession now f.shape f.handler).answer) = _
    rw [hanswer]
  · show (s.stream _).activity.deliveries = _
    rw [activity_stream hheard]
    exact hmade

/-! ## Afterwards -/

/-- Whoever was given out and is not live is not heard of again. -/
theorem silent_after (hs : s.Kept first)
    (hissued : s.host.manager.counter.issued id.number = true)
    (hretired : id ∉ s.host.manager.liveIds) (later : List Server.Operation) :
    (s.after later).host.manager.counter.issued id.number = true ∧
      id ∉ (s.after later).host.manager.liveIds ∧ ∀ d ∈ s.deliveries later, d.session ≠ id := by
  induction later generalizing s with
  | nil => exact ⟨hissued, hretired, nofun⟩
  | cons op later ih =>
    obtain ⟨hkept, hfollows⟩ := hs.step op
    have hbefore : id.number < s.host.manager.counter.next :=
      ((Counter.issued_iff _ _).mp hissued).2
    have hretired' : id ∉ (s.step op).state.host.manager.liveIds := by
      intro hlive
      rcases hfollows.live id hlive with hlive | hlater
      · exact hretired hlive
      · omega
    obtain ⟨hissued'', hretired'', hsilent⟩ :=
      ih hkept (Manager.issued_mono hfollows.counter hissued) hretired'
    refine ⟨hissued'', hretired'', fun d hd hsession => ?_⟩
    rcases List.mem_append.mp hd with hnow | hlater
    · subst hsession
      rcases hfollows.heard d hnow with hlive | hlater
      · exact hretired hlive
      · omega
    · exact hsilent d hlater hsession

/-- To send on the session is refused, at the C interface too, and nothing comes of it. -/
structure Refuses (id : SessionId) (s : Server) : Prop where
  server : ∀ now chunk,
    s.step (.send now id chunk) = { answer := .sent (.error (.inputClosed id)), state := s }
  interface : ∀ g : Gateway, g.server = some s → ∀ now data chunk, data.bytes = .ok chunk →
    (g.send now id data).answer = .status .protocolViolation ∧
      (g.send now id data).report.handed = []

theorem refuses_of_manager (hs : s.Kept first) (hready : s.Ready)
    (hrefused : ∀ now chunk, s.host.manager.send now id chunk =
      { answer := .error (.inputClosed id), state := s.host.manager }) : Refuses id s := by
  have hsend : ∀ now chunk,
      s.send now id chunk = { answer := .error (.inputClosed id), state := s } := by
    intro now chunk
    have hhost : s.host.send now id chunk =
        { answer := .error (.inputClosed id), state := s.host } :=
      hready.resting.perform hs.ordered (hrefused now chunk)
    rw [Server.send, hhost, Server.stream_of_quiet]
  refine ⟨fun now chunk => ?_, fun g hg now data chunk hdata => ?_⟩
  · rw [Server.step, hsend]
    rfl
  · rw [Gateway.send, hdata, Gateway.current_of_server hg]
    dsimp only
    rw [hsend]
    exact ⟨rfl, rfl⟩

theorem refuses_of_retired (hs : s.Kept first) (hready : s.Ready)
    (hissued : s.host.manager.counter.issued id.number = true)
    (hretired : id ∉ s.host.manager.liveIds) : Refuses id s := by
  have hlive : s.host.manager.live? id = none :=
    (Manager.live?_eq_none_iff hs.ordered.numbered).mpr hretired
  refine refuses_of_manager hs hready fun now chunk => ?_
  rw [Manager.send, Manager.lookup_of_retired hlive hissued]

/-- Once the input is closed no more is taken, whether the front end is ready or not. -/
theorem Talks.refuses (h : f.Talks first id ready inputs s) (hfirst : 0 < first)
    (hready : s.Ready) (hended : none ∈ inputs) : Refuses id s := by
  obtain ⟨x, t, hhas, hconverses⟩ := h.converses
  have hended := hconverses.ended_of_mem hended
  cases hlive : x.live with
  | true =>
    refine refuses_of_manager h.kept hready fun now chunk => ?_
    rw [Manager.send, Manager.lookup_of_live (hhas.live?_of_live hlive)]
    dsimp only
    rw [hended.send, Manager.id_of_find? hhas.session]
  | false =>
    refine refuses_of_retired h.kept hready (h.issued hfirst) ?_
    rw [← Manager.live?_eq_none_iff h.kept.ordered.numbered]
    exact hhas.live?_of_retired hlive

/-- When all is said and the front end has heard it, the session is closed for ever. -/
theorem Talks.over (h : f.Talks first id true inputs s) (hfirst : 0 < first) (hready : s.Ready)
    (hended : none ∈ inputs) (later : List Server.Operation) :
    id ∉ (s.after later).host.manager.liveIds ∧ (∀ d ∈ s.deliveries later, d.session ≠ id) ∧
      Refuses id (s.after later) := by
  obtain ⟨x, t, hhas, hconverses⟩ := h.converses
  have hended := hconverses.ended_of_mem hended
  have hretired : id ∉ s.host.manager.liveIds := by
    rw [← Manager.live?_eq_none_iff h.kept.ordered.numbered]
    exact hhas.live?_of_retired hended.live
  obtain ⟨hissued, hretired', hsilent⟩ := silent_after h.kept (h.issued hfirst) hretired later
  exact ⟨hretired', hsilent,
    refuses_of_retired (h.kept.after later) (hready.after later) hissued hretired'⟩

/-- **A conversation from the opening to the last frame.** A server that runs opens a stream on
either method. The front end then sends chunks and closes the input, and signals somewhere in
between, or before or after, that it is ready. All of this is granted, the sending without being
kept waiting. At every moment the front end has heard nothing if it is not ready yet, and all that
the handler says to the inputs so far if it is: in the end every chunk by itself, or all of them
as one, and the end of the stream. Once the input is closed no more is taken. When all is said
the session is closed for ever. -/
theorem exchange_end_to_end {config : Config} {around : Surroundings} {s₀ : Server}
    (hstart : Server.start config Sample.scripted.dispatcher around = .ok s₀)
    (hcounter : 0 < around.sessions.next) {past : List Server.Operation}
    (hrunning : ∀ op ∈ past, op.isShutdown = false)
    (hheard : (s₀.after past).heard = true)
    (hcalm : ∀ hangUp ∈ (s₀.after past).host.manager.hangUps,
      hangUp.1 ≠ ⟨(s₀.after past).host.manager.counter.next⟩)
    (f : Fixture) (now : Instant) (request : Bytes) {chunks : List Bytes} {signals : List Signal}
    (hinputs : signals.filterMap Signal.input? = chunks.map some ++ [none])
    (hready : signals.any (·.isReady) = true) :
    let s := s₀.after past
    let id : SessionId := ⟨s.host.manager.counter.next⟩
    let opened := s.step (.openStream now f.shape f.method request)
    opened.answer = .opened (.done (.ok id)) ∧ opened.activity.deliveries = [] ∧
    (∀ before signal rest, signals = before ++ signal :: rest →
      ((opened.state.after (before.map (·.on id))).step (signal.on id)).answer =
        signal.granted) ∧
    (∀ before rest, signals = before ++ rest →
      opened.state.deliveries (before.map (·.on id)) =
        (aired (before.any (·.isReady))
          (f.speech (before.filterMap Signal.input?))).map (⟨id, ·⟩)) ∧
    (opened.state.deliveries (signals.map (·.on id)) =
      match f with
      | .chat => chunks.map (fun chunk => ⟨id, ⟨.data, chunk⟩⟩) ++ [⟨id, ⟨.finish, []⟩⟩]
      | .concat => [⟨id, ⟨.data, chunks.flatten⟩⟩, ⟨id, ⟨.finish, []⟩⟩]) ∧
    (∀ before rest, signals = before ++ rest → none ∈ before.filterMap Signal.input? →
      Refuses id (opened.state.after (before.map (·.on id)))) ∧
    ∀ later : List Server.Operation,
      let done := opened.state.after (signals.map (·.on id))
      id ∉ (done.after later).host.manager.liveIds ∧ (∀ d ∈ done.deliveries later, d.session ≠ id) ∧
      Refuses id (done.after later) := by
  intro s id opened
  have hkept : s.Kept around.sessions.next := (Server.kept_start hstart).after past
  have hposed : s.Ready := (Server.ready_start hstart).after past
  have hstopped : s.stopped = false := by
    rw [Server.stopped_after, (Server.host_start hstart).2, Bool.false_or, List.any_eq_false]
    exact fun op hop => by simp [hrunning op hop]
  have hscripted : s.dispatcher = Sample.scripted.dispatcher :=
    (s₀.dispatcher_after past).trans (Server.dispatcher_start hstart)
  have hid : id = ⟨s.host.manager.counter.next⟩ := rfl
  obtain ⟨hanswer, hnothing, htalks⟩ :=
    talks_openStream hkept hposed hstopped hscripted hheard hid hcalm f now request
  have hall := htalks.part hcounter hinputs (List.append_nil signals).symm
  rw [hinputs, hready] at hall
  obtain ⟨hdone, hmade⟩ := hall
  refine ⟨hanswer, hnothing, fun before signal rest hsignals => ?_,
    fun before rest hsignals => (htalks.part hcounter hinputs hsignals).2, ?_,
    fun before rest hsignals hended => ?_, fun later => ?_⟩
  · have htalks' := (htalks.part hcounter hinputs hsignals).1
    have hpart : before.filterMap Signal.input? ++ (signal :: rest).filterMap Signal.input? <+:
        chunks.map some ++ [none] := by
      refine ⟨[], ?_⟩
      rw [List.append_nil, ← hinputs, hsignals, List.filterMap_append]
    exact (htalks'.advances hcounter signal (unended_of_inputs hpart)).granted
  · rw [hmade]
    cases f with
    | chat => simp [aired, speech_chat]
    | concat => simp [aired, speech_concat]
  · have htalks' := (htalks.part hcounter hinputs hsignals).1
    exact htalks'.refuses hcounter ((hposed.step _).after _) hended
  · exact hdone.over hcounter ((hposed.step _).after _) (by simp) later

/-- Two chunks and an empty one are collected, and the front end is ready after the first. -/
theorem exchange_end_to_end_collected :
    ∃ s₀, Server.start {} Sample.scripted.dispatcher {} = .ok s₀ ∧
      let s := (s₀.step (.openStream ⟨0⟩ .clientStream "/test.Concat/Collect" [])).state
      s.deliveries
          [.send ⟨1⟩ ⟨1⟩ [1], .markReady ⟨2⟩ ⟨1⟩, .send ⟨3⟩ ⟨1⟩ [], .send ⟨4⟩ ⟨1⟩ [2, 3],
            .closeInput ⟨5⟩ ⟨1⟩] =
        [⟨⟨1⟩, ⟨.data, [1, 2, 3]⟩⟩, ⟨⟨1⟩, ⟨.finish, []⟩⟩] := by
  obtain ⟨-, -, -, -, hmade, -⟩ :=
    @exchange_end_to_end {} {} _ rfl Nat.one_pos [] nofun rfl nofun .concat ⟨0⟩ []
      [[1], [], [2, 3]]
      [.send ⟨1⟩ [1], .ready ⟨2⟩, .send ⟨3⟩ [], .send ⟨4⟩ [2, 3], .closeInput ⟨5⟩] rfl rfl
  exact ⟨_, rfl, hmade⟩

end Fixture
end Switchboard
