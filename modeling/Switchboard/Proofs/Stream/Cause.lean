import Switchboard.Proofs.Stream.Input

/-!
# Cause — why a session was ended is told to whoever still asks

A session that is ended by force has one cause: that of the first operation that got
there while the session was live (`reached`). `Ended` is the state of such a session, and
no operation leaves it. Sends that were waiting end with the cause, the handler is answered
with it from then on (`lastWord`), and nothing is delivered any more.
-/

namespace Switchboard

/-! ## Causes in a history -/

/-- The cause with which an operation ends the session of an identity by force. -/
def Operation.cause? (id : SessionId) : Operation → Option StreamError
  | close _ => some (.sessionClosed id)
  | expireIdle .. => some (.timeout id)
  | shutdown => some .shuttingDown
  | _ => none

/-- The cause with which the session left the registry in the episode. -/
def Episode.cause? (id : SessionId) (e : Episode) : Option StreamError :=
  if e.left then e.op.cause? id else none

namespace History

/-- The first cause with which the session left the registry. -/
def cause? (id : SessionId) (h : History) : Option StreamError := h.findSome? (·.cause? id)

theorem cause?_concat (id : SessionId) (h : History) (e : Episode) :
    cause? id (h ++ [e]) = (cause? id h).or (e.cause? id) := by
  simp [cause?, List.findSome?_append]

theorem cause?_of_void {h : History} (hvoid : ∀ e ∈ h, e.Void) (id : SessionId) :
    h.cause? id = none := by
  refine List.findSome?_eq_none_iff.mpr fun e he => ?_
  simp [Episode.cause?, Episode.left, (hvoid e he).before]

end History

namespace Inbox

variable {b rest : Inbox} {chunk : Bytes} {moved : Nat}

theorem isOver_take (htake : b.take = .chunk chunk moved rest) : rest.isOver = b.isOver := by
  rw [eq_of_take htake]

/-- If nobody waits, nobody moves in. -/
theorem moved_take (htake : b.take = .chunk chunk moved rest) (hnobody : b.waiting = []) :
    moved = 0 ∧ rest.waiting = [] := by
  unfold take at htake
  split at htake
  · cases htake
    exact ⟨rfl, hnobody⟩
  · next hwaiting =>
    rw [hnobody] at hwaiting
    cases hwaiting
  · split at htake <;> cases htake

theorem take_of_isOver (hover : b.isOver = true) (hchunks : b.chunks = []) :
    b.take = .ended := by
  simp [take, hchunks, hover]

end Inbox

namespace Session

variable {s : Session} {op : Operation} {r : Response} {t : Turn} {cause : StreamError}

/-! ## Who gets there first -/

/-- The cause with which an operation ends the session by force: it must name the session
or find it due, and find it live. -/
def reached (op : Operation) (s : Session) : Option StreamError :=
  if s.live then
    match op with
    | .close id => if id = s.id then some (.sessionClosed s.id) else none
    | .expireIdle now timeout =>
      if timeout.nanos ≤ (s.idle now).nanos then some (.timeout s.id) else none
    | .shutdown => some .shuttingDown
    | _ => none
  else none

theorem live_failIf (h : s.Sound) (due : Bool) (cause : StreamError) :
    (s.failIf due cause).session.live = (s.live && !due) := by
  cases hlive : s.live with
  | false => simp [failIf, hlive]
  | true =>
    cases due with
    | false => simp [failIf, hlive]
    | true =>
      obtain ⟨n, hstruck⟩ := failIf_eq_struck h hlive cause
      rw [hstruck]
      rfl

/-- **A session leaves the registry by force exactly when an operation gets there.** -/
theorem cause?_episode (h : s.Sound) (op : Operation) :
    (s.episode op).cause? s.id = s.reached op := by
  have hleft : (s.episode op).left = (s.live && !(s.next op).live) := by
    simp [episode, Episode.left]
  unfold Episode.cause?
  rw [hleft]
  cases op with
  | close id =>
    by_cases hid : id = s.id
    · subst hid
      have hperform : s.perform (.close s.id) = s.whileLive close :=
        perform_of_concerns (by simp [Operation.concerns, Operation.subject?])
      cases hlive : s.live <;>
        simp [next, hperform, whileLive, close, Turn.thenSet, reached, hlive, episode,
          Operation.cause?]
    · have hperform : s.perform (.close id) = (.nothing, .still s) :=
        perform_of_not_concerns (by simp [Operation.concerns, Operation.subject?, hid])
      simp [next, hperform, reached, hid]
  | expireIdle now timeout =>
    have hlive := live_failIf h (timeout.nanos ≤ (s.idle now).nanos) (.timeout s.id)
    have hnext : (s.next (.expireIdle now timeout)).live = _ := hlive
    rw [hnext]
    cases hwas : s.live <;> simp [reached, hwas, episode, Operation.cause?]
  | shutdown =>
    have hnext : (s.next .shutdown).live = _ := live_failIf h true .shuttingDown
    rw [hnext]
    cases hwas : s.live <;> simp [reached, hwas, episode, Operation.cause?]
  | openSession | send | closeInput | markReady | call | interrupt =>
    simp [episode, Operation.cause?, reached]

theorem Effect.cause_eq (heffect : Effect s op r t) (h : s.Sound) :
    t.session.cause = s.cause.or ((s.episodeOf op r t).cause? s.id) := by
  rw [Episode.cause?, left_episodeOf]
  cases heffect with
  | refused | gone | inputWasClosed | denied | interrupted | exhausted | outputWasClosed
  | escaped => simp [Turn.still]
  | closed hlive | expired hlive | stopped hlive =>
    rw [h.cause_of_live hlive, hlive]
    rfl
  | accepted | blocked | closedInput | readied | received | sent | closedOutput | headerSet
  | trailerSet | finished | departed => simp [Turn.still, episodeOf, Operation.cause?]

/-- Whoever waits when a session is ended by force is told the cause. -/
theorem Effect.woken_of_cause? (heffect : Effect s op r t)
    (hcause : (s.episodeOf op r t).cause? s.id = some cause) :
    t.woken = s.inbox.waiting.map fun _ => .error cause := by
  rw [Episode.cause?, left_episodeOf] at hcause
  cases heffect with
  | refused | gone | inputWasClosed | denied | interrupted | exhausted | outputWasClosed
  | escaped => simp [Turn.still] at hcause
  | closed hlive | expired hlive | stopped hlive =>
    rw [hlive] at hcause
    cases hcause
    rfl
  | accepted | blocked | closedInput | readied | received | sent | closedOutput | headerSet
  | trailerSet | finished | departed => simp [episodeOf, Operation.cause?] at hcause

/-! ## After the end -/

/-- A session that was ended by force: nobody waits on it, and nobody will. -/
structure Ended (cause : StreamError) (s : Session) : Prop where
  cause : s.cause = some cause
  isOver : s.inbox.isOver = true
  nobody : s.inbox.waiting = []

theorem Effect.ended (heffect : Effect s op r t) (hwas : s.cause = none)
    (hcause : t.session.cause = some cause) : t.session.Ended cause := by
  cases heffect with
  | closed | expired | stopped => exact ⟨hcause, rfl, rfl⟩
  | _ => exact absurd (hwas.symm.trans hcause) nofun

/-- **The end stays**: the cause does, nobody is woken, and nothing is delivered. -/
theorem Ended.step (hended : s.Ended cause) (h : s.Sound) (heffect : Effect s op r t) :
    t.session.Ended cause ∧ t.frames = [] ∧ t.woken = [] := by
  have hlive := h.live_of_cause hended.cause
  have hforced := heffect.cause_eq_some h hended.cause
  refine ⟨?_, (heffect.quiet h hlive).1, ?_⟩
  · cases heffect with
    | accepted halive | blocked halive =>
      rw [hlive] at halive
      cases halive
    | received htake =>
      exact ⟨hforced, (Inbox.isOver_take htake).trans hended.isOver,
        (Inbox.moved_take htake hended.nobody).2⟩
    | closed | expired | stopped | finished | departed => exact ⟨hforced, rfl, rfl⟩
    | _ => exact ⟨hforced, hended.isOver, hended.nobody⟩
  · cases heffect with
    | received htake =>
      rw [(Inbox.moved_take htake hended.nobody).1]
      rfl
    | closed | expired | stopped | finished | departed =>
      simp [struck, hended.nobody]
    | _ => rfl

/-- Nothing more comes of a session that was ended by force. -/
theorem Ended.after (hended : s.Ended cause) (h : s.Sound) (ops : List Operation) :
    (s.after ops).Ended cause ∧ ∀ e ∈ s.history ops, e.frames = [] ∧ e.woken = [] := by
  induction ops generalizing s with
  | nil => exact ⟨hended, fun e he => absurd he List.not_mem_nil⟩
  | cons op ops ih =>
    obtain ⟨hnext, hframes, hwoken⟩ := hended.step h (h.effect op)
    obtain ⟨hafter, hrest⟩ := ih hnext (h.next op)
    refine ⟨hafter, fun e he => ?_⟩
    rcases List.mem_cons.mp he with rfl | he
    · exact ⟨hframes, hwoken⟩
    · exact hrest e he

/-- What the handler of a session that was ended by force is answered. It may have the
chunks that were queued before, and is told the cause after them. -/
def lastWord (cause : StreamError) (c : Call) (s : Session) : Answer :=
  match c with
  | .receive =>
    match s.inbox.chunks with
    | [] => .error cause
    | chunk :: _ => .ok (some chunk)
  | .send _ | .closeSend => .error cause
  | .setHeader .. | .setTrailer .. | .finish _ => .ok none

theorem Ended.answer (hended : s.Ended cause) (now : Instant) (id : SessionId) (c : Call) :
    (s.undergo (.call now id c)).1 = .answered (s.lastWord cause c) := by
  cases c with
  | receive =>
    cases hchunks : s.inbox.chunks with
    | nil =>
      simp [undergo, call, receive, lastWord, Inbox.take_of_isOver hended.isOver hchunks,
        hended.cause, hchunks]
    | cons chunk rest =>
      simp [undergo, call, receive, lastWord, Inbox.take, hended.nobody, hchunks]
  | send | closeSend => simp [undergo, call, emit, closeOutput, lastWord, hended.cause]
  | setHeader | setTrailer | finish => rfl

/-- Whoever waits as the handler ends is told that the input is closed. -/
theorem woken_finish (h : s.Sound) (hcause : s.cause = none) (now : Instant) (id : SessionId)
    {ending : Ending} (hverdict : ending.verdict ≠ none) :
    (s.undergo (.call now id (.finish ending))).2.woken =
      s.inbox.waiting.map fun _ => .error (.inputClosed s.id) := by
  have heffect := effect_undergo h (.call now id (.finish ending))
  have hanswer : (s.undergo (.call now id (.finish ending))).1 = .answered (.ok none) := rfl
  rw [hanswer] at heffect
  generalize (s.undergo (.call now id (.finish ending))).2 = t at heffect
  cases heffect with
  | refused hrefused => cases hrefused
  | finished => rfl
  | departed => rw [hcause]; rfl
  | escaped hnone => exact absurd hnone hverdict

/-- A break that nobody could contain is nothing to the session. -/
theorem undergo_finish_of_verdict (now : Instant) (id : SessionId) {ending : Ending}
    (hverdict : ending.verdict = none) :
    s.undergo (.call now id (.finish ending)) = (.answered (.ok none), .still s) := by
  simp [undergo, call, hverdict]

/-! ## A run -/

/-- The cause of a session is the first in its history, and with a cause it has ended. -/
structure Caused (s : Session) (past : History) : Prop where
  first : s.cause = past.cause? s.id
  ended : ∀ cause, s.cause = some cause → s.Ended cause

theorem caused_fresh {id : SessionId} {shape : Shape} {capacity : Nat} {now : Instant}
    {past : History} (hvoid : ∀ e ∈ past, e.Void) :
    (fresh id shape capacity true [] now).Caused past :=
  ⟨(History.cause?_of_void hvoid id).symm, nofun⟩

theorem Caused.step {past : History} (h : s.Caused past) (hs : s.Sound)
    (heffect : Effect s op r t) : t.session.Caused (past ++ [s.episodeOf op r t]) := by
  refine ⟨?_, fun cause hcause => ?_⟩
  · rw [heffect.cause_eq hs, h.first, History.cause?_concat, (heffect.precedes hs).id]
  · cases hwas : s.cause with
    | none => exact heffect.ended hwas hcause
    | some first =>
      obtain rfl := heffect.eq_of_cause hs hwas hcause
      exact ((h.ended first hwas).step hs heffect).1

end Session

namespace Manager

variable {capacity earlier : Nat} {ops : List Operation} {id : SessionId} {s : Session}

theorem caused (h : ((fresh capacity earlier).after ops).find? id = some s) :
    s.Caused ((fresh capacity earlier).history id ops) := by
  refine (invariant (P := fun past s => s.Caused past) ?_ ?_ h).2
  · intro past shape now hvoid
    exact Session.caused_fresh hvoid
  · intro past s op r t hs heffect hpast
    exact hpast.step hs heffect

/-- **The first cause wins, and everybody who waits is told it.** A session's cause is that
of the first operation that ended it by force, and an operation does so exactly if it gets
there while the session is live (`reached`). Sends that wait as this happens end with the
cause. From then on, in every continuation, the cause stays, nobody waits, nothing is
delivered, and the handler's calls are answered with the cause, except for chunks that it
may still receive.

If the handler ends first, sends that wait end as sends to a closed input. The one ending
that does not count is a break that could not be contained: nothing comes of it, and whoever
waits goes on waiting. -/
theorem first_cause_wins (h : ((fresh capacity earlier).after ops).find? id = some s) :
    let m := (fresh capacity earlier).after ops
    let past := (fresh capacity earlier).history id ops
    s.cause = past.cause? id ∧
    (∀ op, (m.episode id op).cause? id = s.reached op) ∧
    (∀ op cause, s.reached op = some cause →
      (m.episode id op).woken = past.intake.waiting.map fun _ => .error cause) ∧
    (∀ cause, s.cause = some cause → past.intake.waiting = [] ∧
      ∀ more, (∀ e ∈ m.history id more, e.frames = [] ∧ e.woken = []) ∧
        ∃ s', (m.after more).find? id = some s' ∧ s'.cause = some cause ∧
          ((m.after more).step (.interrupt id)).answer = .answered (.error cause) ∧
          ∀ now c, ((m.after more).step (.call now id c)).answer =
            .answered (s'.lastWord cause c)) ∧
    (s.cause = none → ∀ now ending,
      (ending.verdict ≠ none → (m.episode id (.call now id (.finish ending))).woken =
        past.intake.waiting.map fun _ => .error (.inputClosed id)) ∧
      (ending.verdict = none → (m.episode id (.call now id (.finish ending))).woken = [] ∧
        (m.step (.call now id (.finish ending))).state.find? id = some s)) := by
  intro m past
  obtain ⟨hs, hstocked⟩ := stocked h
  obtain ⟨hfirst, hended⟩ := caused h
  have hm : m.WellFormed := wellFormed_after (wellFormed_fresh capacity earlier) ops
  obtain rfl : s.id = id := id_of_find? h
  have hwaiting : past.intake.waiting = s.inbox.waiting := hstocked.waiting
  have hepisode : ∀ op, m.episode s.id op = s.episode op := episode_of_find? hm h
  refine ⟨hfirst, ?_, ?_, ?_, ?_⟩
  · intro op
    rw [hepisode, Session.cause?_episode hs]
  · intro op cause hreached
    rw [← Session.cause?_episode hs] at hreached
    rw [hepisode, hwaiting]
    exact (hs.effect op).woken_of_cause? hreached
  · intro cause hcause
    refine ⟨hwaiting.trans (hended cause hcause).nobody, fun more => ?_⟩
    obtain ⟨hafter, hsilent⟩ := (hended cause hcause).after hs more
    have hfind := find?_after hm h more
    have hm' : (m.after more).WellFormed := wellFormed_after hm more
    refine ⟨?_, s.after more, hfind, hafter.cause, ?_, ?_⟩
    · rw [history_of_find? hm h]
      exact hsilent
    · rw [answer_of_find? hm' hfind rfl, Session.undergo, hafter.cause]
    · intro now c
      rw [answer_of_find? hm' hfind rfl]
      exact hafter.answer now s.id c
  · intro hcause now ending
    have hconcerns : (Operation.call now s.id (.finish ending)).concerns s.id = true := by
      simp [Operation.concerns, Operation.subject?]
    rw [hepisode, find?_step hm h, Session.episode, Session.next,
      Session.perform_of_concerns hconcerns]
    refine ⟨fun hverdict => ?_, fun hverdict => ?_⟩
    · rw [hwaiting]
      exact Session.woken_finish hs hcause now s.id hverdict
    · rw [Session.undergo_finish_of_verdict now s.id hverdict]
      exact ⟨rfl, rfl⟩

/-- A send waits, and the handler ends with a break that nobody can contain: the sender is not
told that the input is closed and goes on waiting. The close that comes later is then the
first cause, and it is what the sender is told, as it would have been told of the manager
being shut down. -/
theorem first_cause_wins_defiant :
    let ops : List Operation :=
      [.openSession ⟨0⟩ .bidi, .send ⟨1⟩ ⟨1⟩ [7], .send ⟨2⟩ ⟨1⟩ [8]]
    let breaks : Operation := .call ⟨3⟩ ⟨1⟩ (.finish (.panicked (.defiant "again")))
    let m := (fresh 1 0).after ops
    let m' := (fresh 1 0).after (ops ++ [breaks])
    ((fresh 1 0).history ⟨1⟩ ops).intake.waiting = [[8]] ∧
      (m.episode ⟨1⟩ breaks).woken = [] ∧
      ((fresh 1 0).history ⟨1⟩ (ops ++ [breaks])).intake.waiting = [[8]] ∧
      (m'.episode ⟨1⟩ (.close ⟨1⟩)).woken = [.error (.sessionClosed ⟨1⟩)] ∧
      (m'.episode ⟨1⟩ .shutdown).woken = [.error .shuttingDown] := by
  intro ops breaks m m'
  have hfind : m.find? ⟨1⟩ = some ((m.find? ⟨1⟩).get rfl) := rfl
  obtain ⟨-, -, -, -, hended⟩ := first_cause_wins hfind
  obtain ⟨hlost, -⟩ := (hended rfl ⟨3⟩ (.panicked (.defiant "again"))).2 rfl
  have hfind' : m'.find? ⟨1⟩ = some ((m'.find? ⟨1⟩).get rfl) := rfl
  obtain ⟨-, -, hreached, -⟩ := first_cause_wins hfind'
  exact ⟨rfl, hlost, rfl, hreached (.close ⟨1⟩) (.sessionClosed ⟨1⟩) rfl,
    hreached .shutdown .shuttingDown rfl⟩

end Manager
end Switchboard
