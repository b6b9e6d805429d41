import Switchboard.Proofs.Stream.Sound
import Switchboard.Proofs.Stream.Speech

/-!
# Output — what is delivered is what the handler said

`Account` balances the books of a session that was not ended by force: what was delivered
and what is pending make up the frames of the handler's speech. A session that was ended
by force is settled by an `Epilogue`: what had been delivered stands, what was pending is
lost, and at most an error comes after it.
-/

namespace Switchboard

namespace History

/-- The accepted calls of which the session learnt. -/
def heard (h : History) : Speech := h.calls.filter (!·.lost)

@[simp] theorem heard_append (h h' : History) : heard (h ++ h') = heard h ++ heard h' := by
  simp [heard]

theorem filter_kept {calls : Speech} (hkept : ∀ c ∈ calls, c.lost = false) :
    calls.filter (!·.lost) = calls := by
  refine List.filter_eq_self.mpr fun c hc => ?_
  rw [hkept c hc]
  rfl

/-- The session does not learn of a last break that could not be contained. -/
theorem heard_of_panic {h : History} {spoken : Speech} {panic : Panic}
    (hcalls : h.calls = spoken ++ [.finish (.panicked panic)])
    (hkept : ∀ c ∈ spoken, c.lost = false) (hrebound : panic.rebound? ≠ none) :
    h.heard = spoken := by
  rw [heard, hcalls, List.filter_append, filter_kept hkept]
  simp [Call.lost_panic hrebound]

end History

/-- The call that was accepted, as far as the session learnt of it. -/
def Episode.heard (e : Episode) : Speech := e.accepted?.toList.filter (!·.lost)

@[simp] theorem History.heard_singleton (e : Episode) : History.heard [e] = e.heard := by
  simp [History.heard, Episode.heard]

namespace Session

variable {s : Session} {op : Operation} {r : Response} {t : Turn}
variable {told : List Frame} {calls more : Speech} {c : Call}

theorem heard_episodeOf_eq_nil (h : ∀ answer, r ≠ .answered (.ok answer)) :
    (s.episodeOf op r t).heard = [] := by
  unfold Episode.heard Episode.accepted?
  split
  · next answer _ hresponse => exact absurd hresponse (h answer)
  · rfl

theorem heard_call {now : Instant} {id : SessionId} {answer : Option Bytes}
    (hlost : c.lost = false) :
    (s.episodeOf (.call now id c) (.answered (.ok answer)) t).heard = [c] := by
  simp [Episode.heard, Episode.accepted?, episodeOf, hlost]

theorem heard_lost {now : Instant} {id : SessionId} {answer : Option Bytes}
    (hlost : c.lost = true) :
    (s.episodeOf (.call now id c) (.answered (.ok answer)) t).heard = [] := by
  simp [Episode.heard, Episode.accepted?, episodeOf, hlost]

/-! ## Sessions that were not ended by force -/

/-- The books of a session: what the front end was told, what the handler said, and what
the session holds. -/
structure Account (told : List Frame) (calls : Speech) (s : Session) : Prop where
  balance : told ++ s.outbox.pending = calls.frames
  -- Nothing is told before the front end is ready.
  unready : s.halves.ready = false → told = []
  outputOpen : s.halves.outputOpen = true ↔ calls.outcome? = none
  tracks : s.halves.outputOpen = true → s.outbox.Tracks calls
  -- A client stream has one response.
  once : s.shape = .clientStream →
    calls.body.payloads.length = if s.responded = true then 1 else 0

theorem account_fresh (id : SessionId) (shape : Shape) (capacity : Nat) (heard : Bool)
    (now : Instant) : Account [] [] (fresh id shape capacity heard [] now) where
  balance := rfl
  unready := fun _ => rfl
  outputOpen := ⟨fun _ => rfl, fun _ => rfl⟩
  tracks := fun _ => Outbox.tracks_nil
  once := fun _ => rfl

/-- A call that is no response and leaves the output open changes no more than the pairs. -/
theorem Account.idle (h : Account told calls s) {o : Outbox} (hpayload : c.payload? = none)
    (hclosing : c.closing? = none) (hpending : o.pending = s.outbox.pending)
    (htracks : s.outbox.Tracks calls → o.Tracks (calls ++ [c])) :
    Account told (calls ++ [c]) { s with outbox := o } where
  balance := by
    rw [Speech.frames_concat_idle hpayload hclosing, ← h.balance, ← hpending]
  unready := h.unready
  outputOpen := by
    rw [Speech.outcome?_concat_idle hclosing]
    exact h.outputOpen
  tracks := fun hopen => htracks (h.tracks hopen)
  once := by
    rw [Speech.payloads_body_concat_idle hpayload]
    exact h.once

/-- Once the output has ended, calls change nothing. -/
theorem Account.late (h : Account told calls s) (hclosed : s.halves.outputOpen = false)
    (more : Speech) : Account told (calls ++ more) s := by
  have houtcome : calls.outcome? ≠ none := by
    intro hopen
    exact absurd (h.outputOpen.mpr hopen) (by simp [hclosed])
  refine { h with balance := ?_, outputOpen := ?_, tracks := ?_, once := ?_ }
  · rw [Speech.frames_append_of_closed houtcome, h.balance]
  · rw [Speech.outcome?_append_of_closed houtcome, h.outputOpen]
  · intro hopen
    rw [hclosed] at hopen
    cases hopen
  · rw [Speech.body_append_of_closed houtcome]
    exact h.once

theorem Account.balance_stage (h : Account told calls s) (f : Frame) :
    (told ++ (s.outbox.stage f).flush.1) ++ (s.outbox.stage f).flush.2.pending =
      calls.frames ++ s.outbox.staged f := by
  rw [List.append_assoc, Outbox.flush_append, Outbox.pending_stage, ← List.append_assoc,
    h.balance]

theorem Account.unready_stage (h : Account told calls s) (hs : s.Sound) (f : Frame)
    (hunready : s.halves.ready = false) : told ++ (s.outbox.stage f).flush.1 = [] := by
  simp [h.unready hunready, hs.ready, hunready]

theorem Account.send (h : Account told calls s) (hs : s.Sound) (payload : Bytes)
    (hopen : s.halves.outputOpen = true) (honce : s.shape = .clientStream → s.responded = false)
    {now : Instant} {n : Nat} :
    Account (told ++ (s.outbox.stage ⟨.data, payload⟩).flush.1) (calls ++ [.send payload])
      { s with responded := s.responded || s.shape == .clientStream, lastActivity := now,
               outbox := (s.outbox.stage ⟨.data, payload⟩).flush.2, delivered := n } := by
  have houtcome := h.outputOpen.mp hopen
  refine { balance := ?_, unready := h.unready_stage hs _, outputOpen := ?_, tracks := ?_,
           once := ?_ }
  · rw [Speech.frames_concat_send houtcome, (h.tracks hopen).worth_send,
      ← Speech.frames_of_open houtcome]
    exact h.balance_stage _
  · rw [Speech.outcome?_concat_idle rfl]
    exact h.outputOpen
  · intro _
    exact (h.tracks hopen).send payload
  · intro hshape
    have hshape : s.shape = .clientStream := hshape
    have hnone := h.once hshape
    have houtcome' : Speech.outcome? (calls ++ [.send payload]) = none :=
      (Speech.outcome?_concat_idle rfl).trans houtcome
    rw [Speech.body_eq_self houtcome, honce hshape] at hnone
    rw [Speech.body_eq_self houtcome', Speech.payloads_concat]
    simpa [hshape, Call.payload?] using hnone

theorem Account.close (h : Account told calls s) (hs : s.Sound)
    {outcome : Except StreamError Unit} (hclosing : c.closing? = some outcome)
    (hopen : s.halves.outputOpen = true) {s' : Session}
    (hclosed : s'.halves.outputOpen = false) (hready : s'.halves.ready = s.halves.ready)
    (hshape : s'.shape = s.shape) (hresponded : s'.responded = s.responded)
    (houtbox : s'.outbox = (s.outbox.stage (.closing outcome)).flush.2) :
    Account (told ++ (s.outbox.stage (.closing outcome)).flush.1) (calls ++ [c]) s' := by
  have houtcome := h.outputOpen.mp hopen
  have houtcome' : Speech.outcome? (calls ++ [c]) = some outcome := by
    rw [Speech.outcome?_append_of_open houtcome]
    simp [Speech.outcome?, hclosing]
  have hpayload : c.payload? = none := by
    cases c <;> first | rfl | cases hclosing
  refine { balance := ?_, unready := ?_, outputOpen := ?_, tracks := ?_, once := ?_ }
  · rw [Speech.frames_concat_closing houtcome hclosing, (h.tracks hopen).worth_closing,
      ← Speech.frames_of_open houtcome, houtbox]
    exact h.balance_stage _
  · rw [hready]
    exact h.unready_stage hs _
  · simp [hclosed, houtcome']
  · intro hopen'
    rw [hclosed] at hopen'
    cases hopen'
  · rw [hshape, hresponded, Speech.payloads_body_concat_idle hpayload]
    exact h.once

/-- Nothing told, nothing said, and nothing changed that has to do with output. -/
theorem Account.still (h : Account told calls s) (hframes : t.frames = [])
    (hheard : (s.episodeOf op r t).heard = []) (houtbox : t.session.outbox = s.outbox)
    (hopen : t.session.halves.outputOpen = s.halves.outputOpen)
    (hready : t.session.halves.ready = s.halves.ready) (hshape : t.session.shape = s.shape)
    (hresponded : t.session.responded = s.responded) :
    Account (told ++ t.frames) (calls ++ (s.episodeOf op r t).heard) t.session := by
  rw [hframes, hheard, List.append_nil, List.append_nil]
  refine ⟨?_, ?_, ?_, ?_, ?_⟩
  · rw [houtbox]
    exact h.balance
  · rw [hready]
    exact h.unready
  · rw [hopen]
    exact h.outputOpen
  · rw [hopen, houtbox]
    exact h.tracks
  · rw [hshape, hresponded]
    exact h.once

/-- **One operation keeps the books balanced**, unless it ends the session by force. -/
theorem Account.step (h : Account told calls s) (hs : s.Sound) (heffect : Effect s op r t)
    (hcause : t.session.cause = none) :
    Account (told ++ t.frames) (calls ++ (s.episodeOf op r t).heard) t.session := by
  cases heffect with
  | refused hrefused =>
    refine h.still rfl (heard_episodeOf_eq_nil fun answer hanswered => ?_) rfl rfl rfl rfl rfl
    rw [hanswered] at hrefused
    cases hrefused
  | gone | inputWasClosed | denied | interrupted | accepted | blocked | closedInput =>
    exact h.still rfl (heard_episodeOf_eq_nil nofun) rfl rfl rfl rfl rfl
  | readied =>
    show Account (told ++ s.outbox.pending) (calls ++ []) _
    rw [List.append_nil]
    refine { h with balance := ?_, unready := nofun, tracks := ?_ }
    · rw [List.append_nil]
      exact h.balance
    · intro hopen
      exact { h.tracks hopen with }
  | closed | expired | stopped => cases hcause
  | received | exhausted =>
    rw [heard_call rfl]
    show Account (told ++ []) _ _
    rw [List.append_nil]
    exact { h.idle (c := .receive) rfl rfl rfl (·.idle rfl rfl rfl) with }
  | sent hcause hopen honce =>
    rw [heard_call rfl]
    exact h.send hs _ hopen honce
  | closedOutput hcause hopen =>
    rw [heard_call rfl]
    exact h.close hs rfl hopen rfl rfl rfl rfl rfl
  | outputWasClosed hcause hclosed =>
    show Account (told ++ []) _ _
    rw [List.append_nil]
    exact h.late hclosed _
  | @headerSet _ _ key value =>
    rw [heard_call rfl]
    show Account (told ++ []) _ _
    rw [List.append_nil]
    exact h.idle (c := .setHeader key value) rfl rfl (by simp) (·.setHeader key value)
  | @trailerSet _ _ key value =>
    rw [heard_call rfl]
    show Account (told ++ []) _ _
    rw [List.append_nil]
    exact h.idle (c := .setTrailer key value) rfl rfl rfl (·.setTrailer key value)
  | finished hverdict hcause hopen =>
    rw [heard_call (Call.lost_finish hverdict)]
    exact h.close hs (Call.closing?_finish hverdict) hopen rfl rfl rfl rfl rfl
  | @departed _ _ ending _ hverdict hclosed =>
    have hshut : s.halves.outputOpen = false := hclosed.resolve_left fun hforced => hforced hcause
    rw [heard_call (Call.lost_finish hverdict)]
    show Account (told ++ []) _ _
    rw [List.append_nil]
    have hlate := h.late hshut [.finish ending]
    have hopen := hlate.outputOpen
    rw [hshut] at hopen
    exact { hlate with outputOpen := hopen, tracks := nofun }
  | escaped hverdict =>
    exact h.still rfl (heard_lost (by simp [Call.lost, hverdict])) rfl rfl rfl rfl rfl

/-! ## Sessions that were ended by force -/

/-- How the books of a session are closed by force. In each case the front end was told
some first part of the speech. -/
inductive Epilogue (told : List Frame) (calls : Speech) (closed : Bool) (cause : StreamError) :
    Prop where
  -- The front end closed the session and hears nothing more.
  | cut (hclosed : closed = true) {spoken : Speech} (hspoken : spoken <+: calls)
      (htold : told = spoken.frames)
  -- The end of the output had been told.
  | complete (hclosed : closed = false) (hended : calls.outcome? ≠ none)
      (htold : told = calls.frames)
  -- The front end was still owed output, and was told the cause in its place.
  | notified (hclosed : closed = false) {spoken : Speech} (hspoken : spoken <+: calls)
      (hopen : spoken.outcome? = none)
      (htold : told = spoken.frames ++ [⟨.error, Utf8.encode cause.message⟩])

/-- What the handler says afterwards makes no difference. -/
theorem Epilogue.grow {closed : Bool} {cause : StreamError}
    (h : Epilogue told calls closed cause) (more : Speech) :
    Epilogue told (calls ++ more) closed cause := by
  cases h with
  | cut hclosed hspoken htold =>
    exact .cut hclosed (hspoken.trans (List.prefix_append _ _)) htold
  | complete hclosed hended htold =>
    refine .complete hclosed ?_ ?_
    · rwa [Speech.outcome?_append_of_closed hended]
    · rwa [Speech.frames_append_of_closed hended]
  | notified hclosed hspoken hopen htold =>
    exact .notified hclosed (hspoken.trans (List.prefix_append _ _)) hopen htold

/-- Seen as a whole: the frames of a first part of the speech, and the cause after them if
the output had not ended and the front end still listened. -/
theorem Epilogue.exists_spoken {closed : Bool} {cause : StreamError}
    (h : Epilogue told calls closed cause) :
    ∃ (spoken : Speech) (notice : List Frame), spoken <+: calls ∧
      spoken.frames <+: calls.frames ∧ told = spoken.frames ++ notice ∧
      (notice = [] ∧ (closed = true ∨ spoken.outcome? ≠ none) ∨
        closed = false ∧ spoken.outcome? = none ∧
          notice = [⟨.error, Utf8.encode cause.message⟩]) := by
  cases h with
  | @cut hclosed spoken hspoken htold =>
    refine ⟨spoken, [], hspoken, Speech.frames_isPrefix hspoken, ?_, .inl ⟨rfl, .inl hclosed⟩⟩
    rw [htold, List.append_nil]
  | complete hclosed hended htold =>
    refine ⟨calls, [], List.prefix_rfl, List.prefix_rfl, ?_, .inl ⟨rfl, .inr hended⟩⟩
    rw [htold, List.append_nil]
  | @notified hclosed spoken hspoken hopen htold =>
    exact ⟨spoken, _, hspoken, Speech.frames_isPrefix hspoken, htold,
      .inr ⟨hclosed, hopen, rfl⟩⟩

/-- Once the front end is ready it was told all that was said; before, it was told nothing. -/
theorem Account.exists_spoken (h : Account told calls s) (hs : s.Sound) :
    ∃ spoken : Speech, spoken <+: calls ∧ told = spoken.frames := by
  cases hready : s.halves.ready with
  | true =>
    refine ⟨calls, List.prefix_rfl, ?_⟩
    rw [← h.balance, hs.flushed hready, List.append_nil]
  | false => exact ⟨[], List.nil_prefix, h.unready hready⟩

/-- Whoever is not ready is owed either the rest of the output or what is pending. -/
theorem Sound.owed (hs : s.Sound) (hlive : s.live = true) (hunready : s.halves.ready = false) :
    (s.halves.outputOpen || !s.outbox.pending.isEmpty) = true := by
  cases hopen : s.halves.outputOpen with
  | true => rfl
  | false =>
    obtain ⟨front, last, hpending, -⟩ := hs.closing (hs.cause_of_live hlive) hopen hunready
    simp [hpending]

theorem Sound.frames_struck (hs : s.Sound) (hlive : s.live = true)
    (hunready : s.halves.ready = false) (cause : StreamError) (n : Nat) :
    (s.struck cause n).frames = [⟨.error, Utf8.encode cause.message⟩] := by
  simp only [struck, hs.owed hlive hunready, if_true]

theorem Account.strike (h : Account told calls s) (hs : s.Sound) (hlive : s.live = true)
    (cause : StreamError) (n : Nat) :
    Epilogue (told ++ (s.struck cause n).frames) calls false cause := by
  cases hready : s.halves.ready with
  | true =>
    have hpending := hs.flushed hready
    have htold : told = calls.frames := by rw [← h.balance, hpending, List.append_nil]
    cases hopen : s.halves.outputOpen with
    | true =>
      refine .notified rfl List.prefix_rfl (h.outputOpen.mp hopen) ?_
      rw [htold]
      simp [struck, hopen]
    | false =>
      refine .complete rfl ?_ ?_
      · intro houtcome
        exact absurd (h.outputOpen.mpr houtcome) (by simp [hopen])
      · rw [htold]
        simp [struck, hopen, hpending]
  | false =>
    have hnothing : ([] : Speech) <+: calls := List.nil_prefix
    refine .notified rfl hnothing rfl ?_
    rw [h.unready hready, hs.frames_struck hlive hready]
    rfl

/-- **An operation that ends a session by force closes its books.** -/
theorem Account.end (h : Account told calls s) (hs : s.Sound) (heffect : Effect s op r t)
    (hwas : s.cause = none) {cause : StreamError} (hcause : t.session.cause = some cause) :
    Epilogue (told ++ t.frames) calls op.isClose cause := by
  cases heffect with
  | closed hlive =>
    obtain ⟨spoken, hspoken, htold⟩ := h.exists_spoken hs
    refine .cut rfl hspoken ?_
    rw [← htold]
    exact List.append_nil told
  | expired hlive | stopped hlive =>
    cases hcause
    exact h.strike hs hlive _ _
  | _ => exact absurd (hwas.symm.trans hcause) nofun

/-! ## A run -/

/-- The books of a session, whether it was ended by force or not. -/
structure Books (s : Session) (past : History) : Prop where
  account : s.cause = none → past.closed = false ∧ Account past.delivered past.heard s
  epilogue : ∀ cause, s.cause = some cause →
    Epilogue past.delivered past.heard past.closed cause

theorem books_fresh {id : SessionId} {shape : Shape} {capacity : Nat} {now : Instant}
    {past : History} (hvoid : ∀ e ∈ past, e.Void) :
    (fresh id shape capacity true [] now).Books past := by
  refine ⟨fun _ => ⟨History.closed_of_void hvoid, ?_⟩, nofun⟩
  have hheard : past.heard = [] := by
    rw [History.heard, History.calls_of_void hvoid]
    rfl
  rw [History.delivered_of_void hvoid, hheard]
  exact account_fresh id shape capacity true now

theorem Books.step {past : History} (h : s.Books past) (hs : s.Sound)
    (heffect : Effect s op r t) : t.session.Books (past ++ [s.episodeOf op r t]) := by
  have hdelivered : (past ++ [s.episodeOf op r t]).delivered = past.delivered ++ t.frames := by
    rw [History.delivered_append, History.delivered_singleton]
    rfl
  have hheard : (past ++ [s.episodeOf op r t]).heard =
      past.heard ++ (s.episodeOf op r t).heard := by
    rw [History.heard_append, History.heard_singleton]
  have hclosed : (past ++ [s.episodeOf op r t]).closed =
      (past.closed || (s.live && !t.session.live && op.isClose)) := by
    rw [History.closed_append, History.closed_singleton, left_episodeOf]
    rfl
  have hiff := heffect.cause_eq_none_iff
  refine ⟨fun hcause => ?_, fun cause hcause => ?_⟩
  · obtain ⟨hwas, hnot⟩ := hiff.mp hcause
    obtain ⟨hopen, haccount⟩ := h.account hwas
    refine ⟨?_, ?_⟩
    · have hkept : (s.live && !t.session.live && op.isClose) = false := by
        cases hop : op.isClose with
        | false => exact Bool.and_false _
        | true => simpa [op.forces_of_isClose hop] using hnot
      rw [hclosed, hopen, hkept, Bool.or_false]
    · rw [hdelivered, hheard]
      exact haccount.step hs heffect hcause
  · rw [hdelivered, hheard, hclosed]
    cases hwas : s.cause with
    | none =>
      obtain ⟨hopen, haccount⟩ := h.account hwas
      have hleft : s.live = true ∧ t.session.live = false ∧ op.forces = true := by
        simpa [hwas, hcause] using hiff
      rw [hopen, hleft.1, hleft.2.1]
      -- The operation itself ends the session by force, and closes the books.
      exact (haccount.end hs heffect hwas hcause).grow _
    | some first =>
      -- Ended by force before: nothing is delivered, the cause stays, the handler may go on.
      have hlive := hs.live_of_cause hwas
      obtain rfl := heffect.eq_of_cause hs hwas hcause
      rw [(heffect.quiet hs hlive).1, hlive, List.append_nil, Bool.false_and, Bool.false_and,
        Bool.or_false]
      exact (h.epilogue first hwas).grow _

end Session

namespace Manager

variable {capacity earlier : Nat} {ops : List Operation} {id : SessionId} {s : Session}

/-- The books of every session of every run are in order. -/
theorem books (h : ((fresh capacity earlier).after ops).find? id = some s) :
    s.Sound ∧ s.Books ((fresh capacity earlier).history id ops) := by
  refine invariant (P := fun past s => s.Books past) ?_ ?_ h
  · intro past shape now hvoid
    exact Session.books_fresh hvoid
  · intro past s op r t hs heffect hpast
    exact hpast.step hs heffect

/-- **Output is neither lost nor doubled nor reordered, whenever the front end is ready.**
Of a session that was not ended by force, what was delivered and what is pending are the
frames of what the handler said; nothing is delivered before the front end is ready, and
nothing is pending from then on. Of a session that was ended by force, the frames of some
first part of what the handler said were delivered; the cause comes after them if the
front end was still owed output and did not close the session itself.

One call is not in it: that of a handler that broke off with a break that could not be
contained. Such a break is worth an error like any other, but the error is never told. -/
theorem delivered_append_pending
    (h : ((fresh capacity earlier).after ops).find? id = some s) :
    let past := (fresh capacity earlier).history id ops
    (past.ended = false →
      past.delivered ++ s.outbox.pending = past.heard.frames ∧
      (past.readied = false → past.delivered = []) ∧
      (past.readied = true → s.outbox.pending = []) ∧
      ((∀ c ∈ past.calls, c.lost = false) → past.heard = past.calls) ∧
      ∀ (spoken : Speech) (panic : Panic), past.calls = spoken ++ [.finish (.panicked panic)] →
        (∀ c ∈ spoken, c.lost = false) → spoken.outcome? = none → panic.rebound? ≠ none →
        Speech.frames past.calls = past.delivered ++ s.outbox.pending ++
          [⟨.error, Utf8.encode
            (StreamError.handlerFailed ("handler panicked: " ++ panic.describe)).message⟩]) ∧
    (past.ended = true → ∃ (spoken : Speech) (notice : List Frame),
      spoken <+: past.heard ∧ spoken.frames <+: past.heard.frames ∧
      past.delivered = spoken.frames ++ notice ∧
      (notice = [] ∧ (past.closed = true ∨ spoken.outcome? ≠ none) ∨
        past.closed = false ∧ spoken.outcome? = none ∧
          ∃ cause, s.cause = some cause ∧ notice = [⟨.error, Utf8.encode cause.message⟩])) := by
  intro past
  obtain ⟨hs, hbooks⟩ := books h
  have hforced : s.cause.isSome = past.ended := isSome_cause h
  refine ⟨fun hended => ?_, fun hended => ?_⟩
  · have hcause : s.cause = none := by simpa [hended] using hforced
    have hready : s.halves.ready = past.readied := ready_eq_readied h hcause
    obtain ⟨-, haccount⟩ := hbooks.account hcause
    refine ⟨haccount.balance, ?_, ?_, History.filter_kept, ?_⟩
    · intro hunready
      exact haccount.unready (hready.trans hunready)
    · intro hreadied
      exact hs.flushed (hready.trans hreadied)
    · intro spoken panic hcalls hkept hopen hrebound
      have hheard : past.heard = spoken := History.heard_of_panic hcalls hkept hrebound
      rw [haccount.balance, hheard, hcalls, Speech.frames_concat_panic hopen]
  · obtain ⟨cause, hcause⟩ := Option.isSome_iff_exists.mp (hforced.trans hended)
    obtain ⟨spoken, notice, hspoken, hframes, hdelivered, hnotice⟩ :=
      (hbooks.epilogue cause hcause).exists_spoken
    refine ⟨spoken, notice, hspoken, hframes, hdelivered, ?_⟩
    rcases hnotice with hsilent | ⟨hclosed, hopen, hnotice⟩
    · exact .inl hsilent
    · exact .inr ⟨hclosed, hopen, cause, hcause, hnotice⟩

/-- A handler that sends one response and then breaks off in a way that nobody can
contain: the response is delivered, and the error that the break is worth is not. -/
theorem delivered_append_pending_defiant :
    let ops : List Operation :=
      [.openSession ⟨0⟩ .bidi, .call ⟨1⟩ ⟨1⟩ (.send [7]), .markReady ⟨2⟩ ⟨1⟩,
        .call ⟨3⟩ ⟨1⟩ (.finish (.panicked (.defiant "again")))]
    let past := (fresh 1 0).history ⟨1⟩ ops
    ∃ s, ((fresh 1 0).after ops).find? ⟨1⟩ = some s ∧ past.ended = false ∧
      past.delivered ++ s.outbox.pending = [⟨.data, [7]⟩] ∧
      Speech.frames past.calls = [⟨.data, [7]⟩] ++ [⟨.error, Utf8.encode
        (StreamError.handlerFailed
          ("handler panicked: " ++ Panic.describe (.defiant "again"))).message⟩] := by
  intro ops past
  have hfind : ((fresh 1 0).after ops).find? ⟨1⟩ =
    some (((fresh 1 0).after ops).find? ⟨1⟩ |>.get rfl) := rfl
  obtain ⟨hopen, -⟩ := delivered_append_pending hfind
  obtain ⟨hbalance, -, -, -, hmissing⟩ := hopen rfl
  refine ⟨_, hfind, rfl, hbalance, ?_⟩
  rw [hmissing [.send [7]] (.defiant "again") rfl (by decide) rfl nofun, hbalance]
  rfl

end Manager
end Switchboard
