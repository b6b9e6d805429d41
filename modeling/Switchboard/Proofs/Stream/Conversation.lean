import Switchboard.Sample.Scripted
import Switchboard.Proofs.Stream.Hosting

/-!
# Conversation — a session whose handler answers what it hears

The scripted router has two methods whose handler takes input: one sends every chunk back, the
other sends all chunks as one when the input is closed. Between operations such a handler waits
for input (`Listening`), until the input is closed and it has ended (`Ended`). Each operation of
the front end sets it going for a few calls (`Goes`), and what it says on the way is what
`Fixture.speech` has more of.
-/

namespace Switchboard

/-! ## What is to be said -/

/-- The methods of the scripted router whose handlers take input. -/
inductive Fixture where
  | chat
  | concat
  deriving DecidableEq, Repr

namespace Fixture

def method : Fixture → String
  | chat => "/test.Echo/Chat"
  | concat => "/test.Concat/Collect"

def shape : Fixture → Shape
  | chat => .bidi
  | concat => .clientStream

def handler : Fixture → Handler
  | chat => Sample.chat
  | concat => Sample.concat

/-- What the handler says in all to inputs that it hears, each a chunk or the end. -/
def speech (f : Fixture) (inputs : List (Option Bytes)) : List Frame :=
  match f with
  | chat => inputs.map fun
    | some chunk => ⟨.data, chunk⟩
    | none => ⟨.finish, []⟩
  | concat =>
    if none ∈ inputs then [⟨.data, (inputs.filterMap id).flatten⟩, ⟨.finish, []⟩] else []

/-- What the handler has put by. -/
def keeps (f : Fixture) (inputs : List (Option Bytes)) : Bytes :=
  match f with
  | chat => []
  | concat => (inputs.filterMap id).flatten

theorem acceptsInput_shape (f : Fixture) : f.shape.acceptsInput = true := by
  cases f <;> rfl

theorem speech_chat (chunks : List Bytes) :
    chat.speech (chunks.map some ++ [none]) = chunks.map (⟨.data, ·⟩) ++ [⟨.finish, []⟩] := by
  simp [speech]

theorem speech_concat (chunks : List Bytes) :
    concat.speech (chunks.map some ++ [none]) = [⟨.data, chunks.flatten⟩, ⟨.finish, []⟩] := by
  simp [speech, List.filterMap_append]

end Fixture

/-! ## A session that only speaks -/

namespace Session

variable {s : Session} {ready : Bool} {said : List Frame} {now : Instant}

/-- What of the things said has gone out. -/
def aired (ready : Bool) (said : List Frame) : List Frame := if ready then said else []

/-- Such things and no others were said on the session. They go out as soon as the front end is
ready; the front end listens and does not hang up. -/
structure Spoken (ready : Bool) (said : List Frame) (s : Session) : Prop where
  cause : s.cause = none
  audible : s.silenced = false
  heard : s.heard = true
  calm : s.hangUps = []
  headers : s.outbox.headers = []
  trailers : s.outbox.trailers = []
  pending : s.outbox.pending = if ready then [] else said
  signalled : s.outbox.ready = ready

theorem aired_append (ready : Bool) (said more : List Frame) :
    aired ready (said ++ more) = aired ready said ++ aired ready more := by
  cases ready <;> rfl

theorem deliver_of_calm (hheard : s.heard = true) (hcalm : s.hangUps = []) (frames : List Frame) :
    s.deliver frames =
      { session := { s with delivered := s.delivered + frames.length }, frames } := by
  simp [Session.deliver, hangsUpWithin, hheard, hcalm]

/-- Saying something leaves the rest of the session alone. -/
structure Alike (s s' : Session) : Prop where
  id : s'.id = s.id
  halves : s'.halves = s.halves
  inbox : s'.inbox = s.inbox
  live : s'.live = s.live
  responded : s'.responded = s.responded

/-- An outbox that holds no pairs is flushed. -/
theorem Spoken.flush (h : s.Spoken ready said) (o : Outbox) (said' : List Frame)
    (hpairs : o.headers = [] ∧ o.trailers = [])
    (hpending : o.ready = false → o.pending = said') :
    ∃ s', deliver o.flush.1 { s with outbox := o.flush.2 } =
        { session := s', frames := aired o.ready o.pending } ∧
      s'.Spoken o.ready said' ∧ Alike s s' := by
  obtain ⟨hheaders, htrailers⟩ := hpairs
  have hdeliver := deliver_of_calm (s := { s with outbox := o.flush.2 }) h.heard h.calm o.flush.1
  rw [Outbox.frames_flush] at hdeliver ⊢
  refine ⟨_, hdeliver, ⟨h.cause, h.audible, h.heard, h.calm, ?_, ?_, ?_, Outbox.ready_flush o⟩,
    ⟨rfl, rfl, rfl, rfl, rfl⟩⟩
  · unfold Outbox.flush
    split <;> exact hheaders
  · exact (Outbox.trailers_flush o).trans htrailers
  · refine (Outbox.pending_flush o).trans ?_
    cases hready : o.ready with
    | true => rfl
    | false => exact hpending hready

/-- What is said next goes out at once or is pending behind the rest. -/
theorem Spoken.push (h : s.Spoken ready said) (f : Frame) :
    ∃ s', s.push f = { session := s', frames := aired ready [f] } ∧
      s'.Spoken ready (said ++ [f]) ∧ Alike s s' := by
  have hstaged : s.outbox.staged f = [f] := by
    simp [Outbox.staged, Outbox.pairsFrame, h.headers, h.trailers]
  have hpending : (s.outbox.stage f).pending = (if ready then [] else said) ++ [f] := by
    rw [Outbox.pending_stage, hstaged, h.pending]
  have hready : (s.outbox.stage f).ready = ready :=
    (Outbox.ready_stage f s.outbox).trans h.signalled
  have hpairs : (s.outbox.stage f).headers = [] ∧ (s.outbox.stage f).trailers = [] := by
    unfold Outbox.stage Outbox.stageTrailers Outbox.stageHeaders
    split <;> split <;> simp [h.headers, h.trailers]
  have haired : aired (s.outbox.stage f).ready (s.outbox.stage f).pending = aired ready [f] := by
    rw [hready, hpending]
    cases ready <;> rfl
  have hflush := h.flush (s.outbox.stage f) (said ++ [f]) hpairs fun hnot => by
    rw [hpending, if_neg (by simp [hready.symm.trans hnot])]
  rw [haired, hready] at hflush
  rw [Session.push, if_neg (by simp [h.audible])]
  exact hflush

/-- A session on which something was said and nobody has more to say is over once it is all out. -/
theorem Spoken.retireIfDrained (h : s.Spoken ready said) (hsaid : said ≠ [])
    (hshut : s.halves.isTerminal = true) :
    s.retireIfDrained = { s with live := s.live && !ready } := by
  have hdrained : s.drained = ready := by
    rw [drained, hshut, h.audible, h.pending]
    cases ready <;> simp [hsaid]
  rw [Session.retireIfDrained, hdrained]
  cases ready <;> simp

/-! ### What the handler calls -/

theorem Spoken.call_send (h : s.Spoken ready said) (hopen : s.halves.outputOpen = true)
    (hfirst : s.responded = false) (now : Instant) (payload : Bytes) :
    ∃ s', s.call now (.send payload) =
        some (.ok none, { session := s', frames := aired ready [⟨.data, payload⟩] }) ∧
      s'.Spoken ready (said ++ [⟨.data, payload⟩]) ∧
      Alike { s with responded := s.shape == .clientStream } s' := by
  let before : Session := { s with responded := s.shape == .clientStream, lastActivity := now }
  have hemit : s.emit now payload = .ok (before.push ⟨.data, payload⟩) := by
    unfold Session.emit
    split
    · next hcause => cases h.cause.symm.trans hcause
    · rw [if_neg (by simp [hopen]), if_neg (by simp [hfirst]), hfirst, Bool.false_or]
  have hbefore : before.Spoken ready said := { h with }
  obtain ⟨s', hpush, hspoken, halike⟩ := hbefore.push ⟨.data, payload⟩
  refine ⟨s', ?_, hspoken, { halike with }⟩
  simp only [Session.call, hemit, hpush]

theorem Spoken.call_finish (h : s.Spoken ready said) (hopen : s.halves.outputOpen = true)
    (now : Instant) :
    ∃ s' woken, s.call now (.finish (.returned (.ok ()))) =
        some (.ok none, { session := s', frames := aired ready [⟨.finish, []⟩], woken }) ∧
      s'.Spoken ready (said ++ [⟨.finish, []⟩]) ∧
      s'.halves = s.halves.closeBoth.2 ∧ s'.inbox.sender = false ∧
      s'.live = (s.live && !ready) := by
  let ended : Session := { s with halves := s.halves.closeBoth.2, lastActivity := now }
  have hended : ended.Spoken ready said := { h with }
  have hfarewell : ended.farewell s.halves.outputOpen (.ok ()) = some ⟨.finish, []⟩ := by
    unfold farewell
    rw [hopen, hended.cause]
  obtain ⟨s', hpush, hspoken, halike⟩ := hended.push ⟨.finish, []⟩
  have hover : s'.release.session.Spoken ready (said ++ [⟨.finish, []⟩]) := { hspoken with }
  have hretire := hover.retireIfDrained (by simp) (by
    show s'.halves.isTerminal = true
    rw [halike.halves]
    rfl)
  refine ⟨{ s'.release.session with live := s'.live && !ready }, s'.release.woken, ?_,
    { hover with }, halike.halves, rfl, ?_⟩
  · simp only [Session.call, Ending.verdict, Session.finish, Turn.andThen, Turn.thenSet]
    rw [hfarewell]
    dsimp only
    rw [hpush, hretire]
    simp [release]
  · rw [halike.live]

/-! ### What the front end does -/

/-- The signal of the front end lets out what is pending. -/
theorem Spoken.markReady (h : s.Spoken ready said) (now : Instant) :
    ∃ s', s.markReady now =
        { session := s'.retireIfDrained, frames := if ready then [] else said } ∧
      s'.Spoken true said ∧ Alike { s with halves := s.halves.markReady.2 } s' := by
  let marked : Session := { s with halves := s.halves.markReady.2, lastActivity := now }
  have hmarked : marked.Spoken ready said := { h with }
  obtain ⟨s', hdeliver, hspoken, halike⟩ :=
    hmarked.flush { s.outbox with ready := true } said ⟨h.headers, h.trailers⟩ nofun
  refine ⟨s', ?_, hspoken, { halike with }⟩
  rw [Session.markReady]
  dsimp only
  rw [if_neg (by simp [h.audible]), hdeliver, ← h.pending]
  rfl

end Session

/-! ## A handler that goes on for a few calls -/

namespace Task

variable {now : Instant} {t u : Task} {s s' : Session} {frames : List Frame}

/-- A handler goes on call by call until it rests or is kept waiting, and frames go out. -/
inductive Goes (now : Instant) : Task → Session → Task → Session → List Frame → Prop where
  | rests {t : Task} {s : Session} (hmove : t.move = .rest) : Goes now t s t s []
  | waits {t : Task} {s : Session} {c : Call} (hmove : t.move = .call c)
    (hcall : s.call now c = none) : Goes now t s t s []
  | calls {t u : Task} {s s' : Session} {frames : List Frame} {c : Call} {a : Answer} {turn : Turn}
    (hmove : t.move = .call c) (hcall : s.call now c = some (a, turn))
    (hrest : Goes now (t.answered c a) turn.session u s' frames) :
    Goes now t s u s' (turn.frames ++ frames)

theorem Goes.run (h : Goes now t s u s' frames) (past : Activity) :
    ∃ activity events,
      t.run ({ session := s, now, activity := past } : Desk) =
        (u, { session := s', now, activity }, events) ∧
      activity.deliveries = past.deliveries ++ frames.map (⟨s.id, ·⟩) := by
  induction h generalizing past with
  | rests hmove => exact ⟨past, [], run_of_rest hmove, (List.append_nil _).symm⟩
  | waits hmove hcall =>
    refine ⟨past, [], run_of_step ?_, (List.append_nil _).symm⟩
    simp [step, hmove, Peer.answer, Desk.answer, hcall]
  | @calls t u s s' frames c a turn hmove hcall _ ih =>
    obtain ⟨activity, events, hrun, hmade⟩ := ih (past ++ turn.activity)
    have hstep : t.step ({ session := s, now, activity := past } : Desk) =
        some (t.answered c a,
          { session := turn.session, now, activity := past ++ turn.activity }, sees c a) := by
      simp [step, hmove, Peer.answer, Desk.answer, hcall]
    have hgone := run_of_some hstep
    rw [hrun] at hgone
    refine ⟨activity, _, hgone, ?_⟩
    rw [hmade, Activity.deliveries_append, List.append_assoc, List.map_append,
      ← Session.id_call hcall]
    rfl

end Task

/-! ## Between operations -/

open Session (Spoken aired)
open Switchboard.Task (Goes)

namespace Fixture

variable {f : Fixture} {ready : Bool} {inputs : List (Option Bytes)} {s : Session} {t : Task}

/-- The handler waits for input. -/
structure Listening (f : Fixture) (ready : Bool) (inputs : List (Option Bytes)) (s : Session)
    (t : Task) : Prop where
  unended : none ∉ inputs
  spoken : s.Spoken ready (f.speech inputs)
  live : s.live = true
  halves : s.halves = ⟨f.shape, true, true, ready⟩
  inbox : ∃ capacity, s.inbox = Inbox.empty capacity true
  unanswered : s.responded = false
  task : t = { Task.ofHandler s.id f.shape f.handler with collected := f.keeps inputs }

/-- The handler has heard the end of the input and ended. -/
structure Ended (f : Fixture) (ready : Bool) (inputs : List (Option Bytes)) (s : Session)
    (t : Task) : Prop where
  ended : none ∈ inputs
  spoken : s.Spoken ready (f.speech inputs)
  live : s.live = !ready
  halves : s.halves = ⟨f.shape, false, false, ready⟩
  deaf : s.inbox.sender = false
  done : t.isOver = true

theorem offer_empty (capacity : Nat) (chunk : Bytes) :
    (Inbox.empty capacity true).offer chunk =
      (true, { Inbox.empty capacity true with chunks := [chunk] }) := by
  have hroom : (Inbox.empty capacity true).full = false := by
    simp [Inbox.full, Inbox.empty]
  rw [Inbox.offer, hroom]
  rfl

theorem Listening.send (h : f.Listening ready inputs s t) (now : Instant) (chunk : Bytes) :
    ∃ s₁ s₂ u frames, s.send now chunk = .ok (true, s₁) ∧ Goes now t s₁ u s₂ frames ∧
      f.Listening ready (inputs ++ [some chunk]) s₂ u ∧
      aired ready (f.speech (inputs ++ [some chunk])) =
        aired ready (f.speech inputs) ++ frames := by
  obtain ⟨capacity, hinbox⟩ := h.inbox
  have hshape : s.shape = f.shape := congrArg Halves.shape h.halves
  have hunended : none ∉ inputs ++ [some chunk] := by simp [h.unended]
  let s₁ : Session := { s with
    inbox := { Inbox.empty capacity true with chunks := [chunk] }, lastActivity := now }
  let s₀ : Session := { s with inbox := Inbox.empty capacity true, lastActivity := now }
  have hsend : s.send now chunk = .ok (true, s₁) := by
    rw [Session.send, hshape, acceptsInput_shape, hinbox, offer_empty]
    rfl
  have hreceive : s₁.call now .receive = some (.ok (some chunk), { session := s₀ }) := rfl
  have hspoken : s₀.Spoken ready (f.speech inputs) := { h.spoken with }
  obtain rfl := h.task
  cases f with
  | chat =>
    -- It takes the chunk, sends it back and waits again.
    have hspeech : chat.speech (inputs ++ [some chunk]) =
        chat.speech inputs ++ [⟨.data, chunk⟩] := by
      simp [speech]
    obtain ⟨s₂, hsay, hspoken, halike⟩ :=
      hspoken.call_send (by simp [s₀, h.halves]) h.unanswered now chunk
    have hwait : s₂.call now .receive = none := by
      rw [Session.call, Session.receive, halike.inbox]
      rfl
    refine ⟨s₁, s₂, _, _, hsend,
      .calls (c := .receive) rfl hreceive
        (.calls (c := .send chunk) rfl hsay (.waits (c := .receive) rfl hwait)),
      ⟨hunended, hspeech ▸ hspoken, halike.live.trans h.live, halike.halves.trans h.halves,
        ⟨capacity, halike.inbox⟩, ?_, ?_⟩, ?_⟩
    · rw [halike.responded, show s₀.shape = .bidi from hshape]
      rfl
    · rw [halike.id]
      rfl
    · rw [hspeech, Session.aired_append]
      simp
  | concat =>
    -- It takes the chunk, puts it by and waits again.
    have hspeech : concat.speech (inputs ++ [some chunk]) = concat.speech inputs := by
      simp [speech, h.unended]
    refine ⟨s₁, s₀, _, _, hsend,
      .calls (c := .receive) rfl hreceive (.waits (c := .receive) rfl rfl),
      ⟨hunended, hspeech ▸ hspoken, h.live, h.halves, ⟨capacity, rfl⟩, h.unanswered, ?_⟩, ?_⟩
    · simp [Task.answered, Task.ofHandler, handler, Sample.concat, keeps, s₀, List.filterMap_append]
    · rw [hspeech]
      simp

/-- To the end of its input the handler says the rest, and ends. -/
theorem Listening.closeInput (h : f.Listening ready inputs s t) (now : Instant) :
    ∃ s₂ u frames, Goes now t (s.closeInput now) u s₂ frames ∧
      f.Ended ready (inputs ++ [none]) s₂ u ∧
      aired ready (f.speech (inputs ++ [none])) = aired ready (f.speech inputs) ++ frames := by
  obtain ⟨capacity, hinbox⟩ := h.inbox
  have hended : none ∈ inputs ++ [none] := by simp
  let s₁ : Session := { s with
    halves := ⟨f.shape, false, true, ready⟩, inbox := Inbox.empty capacity false,
    lastActivity := now }
  have hclosed : s.closeInput now = s₁ := by
    rw [Session.closeInput, h.halves, hinbox]
    rfl
  have hreceive : s₁.call now .receive = some (.ok none, { session := s₁ }) := by
    rw [Session.call, Session.receive, show s₁.cause = none from h.spoken.cause]
    rfl
  have hspoken : s₁.Spoken ready (f.speech inputs) := { h.spoken with }
  have hopen : s₁.live = true := h.live
  rw [hclosed]
  obtain rfl := h.task
  cases f with
  | chat =>
    have hspeech : chat.speech (inputs ++ [none]) = chat.speech inputs ++ [⟨.finish, []⟩] := by
      simp [speech]
    obtain ⟨s₂, woken, hfinish, hspoken, hhalves, hdeaf, hlive⟩ := hspoken.call_finish rfl now
    refine ⟨s₂, _, _,
      .calls (c := .receive) rfl hreceive
        (.calls (c := .finish (.returned (.ok ()))) rfl hfinish (.rests rfl)),
      ⟨hended, hspeech ▸ hspoken, hlive.trans (by simp [hopen]), hhalves, hdeaf, rfl⟩, ?_⟩
    rw [hspeech, Session.aired_append]
    simp
  | concat =>
    let all : Bytes := concat.keeps inputs
    have hspeech : concat.speech (inputs ++ [none]) =
        concat.speech inputs ++ [⟨.data, all⟩] ++ [⟨.finish, []⟩] := by
      simp [speech, h.unended, all, keeps, List.filterMap_append]
    obtain ⟨s₂, hsay, hspoken, halike⟩ := hspoken.call_send rfl h.unanswered now all
    obtain ⟨s₃, woken, hfinish, hspoken, hhalves, hdeaf, hlive⟩ :=
      hspoken.call_finish (by rw [halike.halves]) now
    refine ⟨s₃, _, _,
      .calls (c := .receive) rfl hreceive
        (.calls (c := .send all) rfl hsay
          (.calls (c := .finish (.returned (.ok ()))) rfl hfinish (.rests rfl))),
      ⟨hended, hspeech ▸ hspoken, hlive.trans ?_, hhalves.trans ?_, hdeaf, rfl⟩, ?_⟩
    · simp [halike.live, hopen]
    · rw [halike.halves]
      rfl
    · rw [hspeech, Session.aired_append, Session.aired_append]
      simp

theorem Listening.waits (h : f.Listening ready inputs s t) (now : Instant) :
    Goes now t s t s [] := by
  obtain ⟨capacity, hinbox⟩ := h.inbox
  have hreceive : t.move = .call .receive := by
    rw [h.task]
    cases f <;> rfl
  have hwait : s.call now .receive = none := by
    rw [Session.call, Session.receive, hinbox]
    rfl
  exact .waits hreceive hwait

theorem Listening.markReady (h : f.Listening ready inputs s t) (now : Instant) :
    ∃ s₂ frames, s.markReady now = { session := s₂, frames } ∧
      f.Listening true inputs s₂ t ∧
      aired true (f.speech inputs) = aired ready (f.speech inputs) ++ frames := by
  obtain ⟨capacity, hinbox⟩ := h.inbox
  obtain ⟨s₂, hmark, hspoken, halike⟩ := h.spoken.markReady now
  have hhalves : s₂.halves = ⟨f.shape, true, true, true⟩ := by
    rw [halike.halves, h.halves]
    rfl
  have hstays : s₂.retireIfDrained = s₂ := by
    rw [Session.retireIfDrained, Session.drained, hhalves]
    rfl
  rw [hstays] at hmark
  refine ⟨s₂, _, hmark,
    ⟨h.unended, hspoken, halike.live.trans h.live, hhalves,
      ⟨capacity, halike.inbox.trans hinbox⟩, halike.responded.trans h.unanswered, ?_⟩, ?_⟩
  · rw [halike.id]
    exact h.task
  · cases ready <;> simp [aired]

theorem speech_ne_nil (f : Fixture) (h : none ∈ inputs) : f.speech inputs ≠ [] := by
  cases f with
  | chat => exact fun hnil => List.ne_nil_of_mem h (List.map_eq_nil_iff.mp hnil)
  | concat => simp [speech, h]

theorem Ended.rests (h : f.Ended ready inputs s t) (now : Instant) : Goes now t s t s [] :=
  .rests (by simp [Task.move, h.done])

theorem Ended.send (h : f.Ended ready inputs s t) (now : Instant) (chunk : Bytes) :
    s.send now chunk = .error (.inputClosed s.id) := by
  have hshape : s.shape = f.shape := congrArg Halves.shape h.halves
  rw [Session.send, hshape, if_neg (by simp [acceptsInput_shape]), if_pos h.deaf]

theorem Ended.markReady (h : f.Ended ready inputs s t) (now : Instant) :
    ∃ s₂ frames, s.markReady now = { session := s₂, frames } ∧
      f.Ended true inputs s₂ t ∧
      aired true (f.speech inputs) = aired ready (f.speech inputs) ++ frames := by
  obtain ⟨s', hmark, hspoken, halike⟩ := h.spoken.markReady now
  have hhalves : s'.halves = ⟨f.shape, false, false, true⟩ := by
    rw [halike.halves, h.halves]
    rfl
  have hretire := hspoken.retireIfDrained (speech_ne_nil f h.ended) (by rw [hhalves]; rfl)
  have hdeaf : s'.inbox.sender = false := by
    rw [halike.inbox]
    exact h.deaf
  rw [hretire] at hmark
  refine ⟨_, _, hmark, ⟨h.ended, { hspoken with }, by simp, hhalves, hdeaf, h.done⟩, ?_⟩
  cases ready <;> simp [aired]

/-- How a session and its handler stand when all inputs so far were heard. -/
inductive Converses (f : Fixture) (ready : Bool) (inputs : List (Option Bytes)) (s : Session)
    (t : Task) : Prop where
  | listening (h : f.Listening ready inputs s t)
  | ended (h : f.Ended ready inputs s t)

theorem Converses.rests (h : f.Converses ready inputs s t) (now : Instant) :
    Goes now t s t s [] := by
  cases h with
  | listening h => exact h.waits now
  | ended h => exact h.rests now

theorem Converses.markReady (h : f.Converses ready inputs s t) (now : Instant) :
    ∃ s₂ frames, s.markReady now = { session := s₂, frames } ∧
      f.Converses true inputs s₂ t ∧
      aired true (f.speech inputs) = aired ready (f.speech inputs) ++ frames := by
  cases h with
  | listening h =>
    obtain ⟨s₂, frames, hmark, hlistening, haired⟩ := h.markReady now
    exact ⟨s₂, frames, hmark, .listening hlistening, haired⟩
  | ended h =>
    obtain ⟨s₂, frames, hmark, hended, haired⟩ := h.markReady now
    exact ⟨s₂, frames, hmark, .ended hended, haired⟩

theorem Converses.listening_of_unended (h : f.Converses ready inputs s t) (hopen : none ∉ inputs) :
    f.Listening ready inputs s t := by
  cases h with
  | listening h => exact h
  | ended h => exact absurd h.ended hopen

theorem Converses.ended_of_mem (h : f.Converses ready inputs s t) (hshut : none ∈ inputs) :
    f.Ended ready inputs s t := by
  cases h with
  | listening h => exact absurd hshut h.unended
  | ended h => exact h

/-- A session of which everything was heard is over. -/
theorem Converses.ready_of_retired (h : f.Converses ready inputs s t) (hretired : s.live = false) :
    ready = true := by
  cases h with
  | listening h => cases h.live.symm.trans hretired
  | ended h => simpa [h.live] using hretired

theorem listening_fresh (f : Fixture) (id : SessionId) (capacity : Nat) (now : Instant) :
    f.Listening false [] (Session.fresh id f.shape capacity true [] now)
      (Task.ofHandler id f.shape f.handler) where
  unended := List.not_mem_nil
  spoken := ⟨rfl, rfl, rfl, rfl, rfl, rfl, by cases f <;> rfl, rfl⟩
  live := rfl
  halves := by cases f <;> rfl
  inbox := ⟨capacity, by cases f <;> rfl⟩
  unanswered := rfl
  task := by cases f <;> rfl

end Fixture

/-! ## In a host -/

namespace Host

variable {first : Nat} {h : Host} {id : SessionId} {now : Instant} {s s' : Session} {t u : Task}
  {frames : List Frame}

/-- The host has the session under the identity, and the handler. -/
structure Has (id : SessionId) (s : Session) (t : Task) (h : Host) : Prop where
  session : h.manager.find? id = some s
  task : h.task? id = some t

theorem Has.live?_of_live (hhas : h.Has id s t) (hlive : s.live = true) :
    h.manager.live? id = some s := Option.filter_eq_some_iff.mpr ⟨hhas.session, hlive⟩

theorem Has.live?_of_retired (hhas : h.Has id s t) (hlive : s.live = false) :
    h.manager.live? id = none := by
  rw [Manager.live?, hhas.session]
  exact Option.filter_some_neg (by simp [hlive])

theorem settle_of_goes (hhas : h.Has id s t) (hgoes : Goes now t s u s' frames) :
    let o := h.settle now id
    o.state.Has id s' u ∧ o.activity.deliveries = frames.map (⟨id, ·⟩) ∧
      o.state.manager.heard = h.manager.heard := by
  intro o
  obtain ⟨activity, events, hrun, hmade⟩ := hgoes.run {}
  have hid := Manager.id_of_find? hhas.session
  have hsession : s'.id = s.id := by
    have hprecedes := Desk.precedes_run t { session := s, now }
    rw [hrun] at hprecedes
    exact hprecedes.id
  have htask : u.session = id := by
    have hsame := Task.session_run t ({ session := s, now } : Desk)
    rw [hrun] at hsame
    exact hsame.trans (session_of_task? hhas.task)
  have ho : o =
      { answer := ()
        state := { h with manager := h.manager.put s' }.putTask u
        activity := activity ++ { events := events.map fun e => (id, e) } } := by
    show h.settle now id = _
    simp only [settle, hhas.task, hhas.session, hrun]
  rw [ho]
  refine ⟨⟨Manager.find?_put hhas.session hsession, ?_⟩, ?_, rfl⟩
  · exact task?_putTask (h := { h with manager := h.manager.put s' }) hhas.task htask
  · rw [Activity.deliveries_append, hmade, hid]
    exact List.append_nil _

/-- An operation of the front end on a session, and what the handler does then. -/
theorem perform_of_goes {α : Type} {op : Manager → Outcome Manager α} (htask : h.task? id = some t)
    (hfind : (op h.manager).state.find? id = some s) (hgoes : Goes now t s u s' frames) :
    let o := h.perform now id op
    o.state.Has id s' u ∧
      o.activity.deliveries = (op h.manager).activity.deliveries ++ frames.map (⟨id, ·⟩) ∧
      o.state.manager.heard = (op h.manager).state.heard := by
  intro o
  obtain ⟨hhas, hmade, hheard⟩ :=
    settle_of_goes (h := { h with manager := (op h.manager).state }) ⟨hfind, htask⟩ hgoes
  refine ⟨hhas, ?_, hheard⟩
  rw [← hmade]
  rfl

/-- The number that comes next was not given to anybody. -/
theorem Ordered.has_new (hh : h.Ordered first) (now : Instant) (shape : Shape)
    (handler : Handler) :
    let id : SessionId := ⟨h.manager.counter.next⟩
    Has id
      (Session.fresh id shape h.manager.capacity h.manager.heard
        ((h.manager.hangUps.filter (·.1 = id)).map (·.2)) now)
      (Task.ofHandler id shape handler)
      { manager := h.manager.withNew now shape
        tasks := h.tasks ++ [Task.ofHandler id shape handler] } := by
  intro id
  have hnew : id ∉ h.manager.ids := by
    intro hid
    have hwithin : (h.manager.counter.next : Int) < h.manager.counter.next :=
      (hh.numbered.within id hid).2
    omega
  have hsession : h.manager.sessions.find? (·.id = id) = none :=
    (Manager.find?_eq_none_iff h.manager id).mpr hnew
  have htask : h.tasks.find? (·.session = id) = none := by
    rw [← hh.aligned] at hnew
    simpa using hnew
  constructor
  · show List.find? _ (h.manager.sessions ++ [_]) = _
    rw [List.find?_append, hsession]
    simp [Session.fresh, id]
  · show List.find? _ (h.tasks ++ [_]) = _
    rw [List.find?_append, htask]
    simp [Task.ofHandler]

theorem openSession_of_goes (hh : h.Ordered first) (hopen : h.manager.shuttingDown = false)
    (hid : id = ⟨h.manager.counter.next⟩) {shape : Shape} {handler : Handler}
    (hgoes : Goes now (Task.ofHandler id shape handler)
      (Session.fresh id shape h.manager.capacity h.manager.heard
        ((h.manager.hangUps.filter (·.1 = id)).map (·.2)) now) u s' frames) :
    let o := h.openSession now shape handler
    o.answer = .ok id ∧ o.state.Has id s' u ∧ o.activity.deliveries = frames.map (⟨id, ·⟩) ∧
      o.state.manager.heard = h.manager.heard := by
  intro o
  subst hid
  have hopened : h.manager.openSession now shape =
      { answer := .ok ⟨h.manager.counter.next⟩, state := h.manager.withNew now shape } := by
    simp [Manager.openSession, Manager.withNew, hopen]
  have ho : o = Outcome.andThen
      { answer := .ok ⟨h.manager.counter.next⟩
        state :=
          { manager := h.manager.withNew now shape
            tasks := h.tasks ++ [Task.ofHandler ⟨h.manager.counter.next⟩ shape handler] } }
      (settle now ⟨h.manager.counter.next⟩) := by
    show h.openSession now shape handler = _
    rw [openSession, hopened]
  obtain ⟨hhas, hmade, hheard⟩ := settle_of_goes (hh.has_new now shape handler) hgoes
  rw [ho]
  exact ⟨rfl, hhas, hmade, hheard⟩

end Host
end Switchboard
