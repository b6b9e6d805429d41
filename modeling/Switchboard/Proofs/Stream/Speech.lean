import Switchboard.Proofs.Stream.Effect

/-!
# Speech — what the calls of a handler amount to

`Speech.frames` says which frames the accepted calls of a handler are worth, with no
regard to when the front end is ready: the headers set before the first response or the
end of the output, the responses, and how the output ended. Everything is read off the
list of calls; there is no outbox in it. `Tracks` ties an outbox to the calls that went
into it, and what the outbox stages is what the frames grow by.
-/

namespace Switchboard

namespace Call

/-- The outcome with which the call ends an output that is open. -/
def closing? : Call → Option (Except StreamError Unit)
  | closeSend => some (.ok ())
  | finish (.returned outcome) => some outcome
  | finish (.panicked panic) =>
    some (.error (.handlerFailed ("handler panicked: " ++ panic.describe)))
  | receive | send _ | setHeader .. | setTrailer .. => none

/-- The payload that a call sends. -/
def payload? : Call → Option Bytes
  | send payload => some payload
  | _ => none

/-- The header that a call sets. -/
def header? : Call → Option (String × String)
  | setHeader key value => some (key, value)
  | _ => none

/-- The trailer that a call sets. -/
def trailer? : Call → Option (String × String)
  | setTrailer key value => some (key, value)
  | _ => none

/-- The session never learns of the call: the handler broke off, and the break could not
be contained. -/
def lost : Call → Bool
  | finish ending => ending.verdict.isNone
  | _ => false

theorem closing?_finish {ending : Ending} {outcome : Except StreamError Unit}
    (h : ending.verdict = some outcome) : (finish ending).closing? = some outcome := by
  cases ending with
  | returned outcome' => exact h
  | panicked panic => cases panic <;> first | exact h | cases h

theorem lost_panic {panic : Panic} (h : panic.rebound? ≠ none) :
    (finish (.panicked panic)).lost = true := by
  cases panic with
  | defiant text => rfl
  | message | object => exact absurd rfl h

theorem lost_finish {ending : Ending} {outcome : Except StreamError Unit}
    (h : ending.verdict = some outcome) : (finish ending).lost = false := by
  simp [lost, h]

end Call

/-- The accepted calls of a handler, in order. -/
abbrev Speech := List Call

namespace Speech

/-! ## The frames of a speech -/

/-- How the output was ended, if it was: the first call that ends it counts. -/
def outcome? (calls : Speech) : Option (Except StreamError Unit) :=
  calls.findSome? Call.closing?

/-- The calls before the end of the output. -/
def body (calls : Speech) : Speech := calls.takeWhile (·.closing?.isNone)

/-- The calls before the first response. -/
def preamble (calls : Speech) : Speech := calls.takeWhile (·.payload?.isNone)

/-- The payloads sent, in order. -/
def payloads (calls : Speech) : List Bytes := calls.filterMap Call.payload?

/-- The headers that count: those set before the first response. -/
def headers (calls : Speech) : Pairs := calls.preamble.filterMap Call.header?

/-- The trailers set, in order. -/
def trailers (calls : Speech) : Pairs := calls.filterMap Call.trailer?

/-- The headers and the responses. -/
def begun (calls : Speech) : List Frame :=
  Outbox.pairsFrame .header calls.headers ++ calls.payloads.map fun p => ⟨.data, p⟩

/-- What calls are worth that do not end the output, and an end of it. -/
def worth (outcome : Option (Except StreamError Unit)) (calls : Speech) : List Frame :=
  match outcome with
  | none => if calls.payloads.isEmpty then [] else calls.begun
  | some (.ok ()) =>
    calls.begun ++ Outbox.pairsFrame .trailer calls.trailers ++ [⟨.finish, []⟩]
  | some (.error e) =>
    (if calls.payloads.isEmpty then [] else calls.begun) ++ [⟨.error, Utf8.encode e.message⟩]

/-- **The frames that a speech is worth.** -/
def frames (calls : Speech) : List Frame := calls.body.worth calls.outcome?

/-! ## Speeches that go on -/

variable {calls more : Speech} {c : Call}

theorem payloads_concat : payloads (calls ++ [c]) = calls.payloads ++ c.payload?.toList := by
  rw [payloads, List.filterMap_append, payloads]
  cases hpayload : c.payload? <;> simp [hpayload]

theorem trailers_concat : trailers (calls ++ [c]) = calls.trailers ++ c.trailer?.toList := by
  rw [trailers, List.filterMap_append, trailers]
  cases htrailer : c.trailer? <;> simp [htrailer]

theorem closing?_eq_none (hopen : calls.outcome? = none) :
    ∀ c ∈ calls, c.closing?.isNone = true := by
  intro c hc
  rw [List.findSome?_eq_none_iff.mp hopen c hc]
  rfl

theorem body_append_of_open (hopen : calls.outcome? = none) :
    body (calls ++ more) = calls ++ more.body :=
  List.takeWhile_append_of_pos (closing?_eq_none hopen)

theorem body_eq_self (hopen : calls.outcome? = none) : calls.body = calls := by
  have hall : body (calls ++ []) = calls ++ body [] := body_append_of_open hopen
  simpa [body] using hall

theorem frames_of_open (hopen : calls.outcome? = none) : calls.frames = calls.worth none := by
  rw [frames, body_eq_self hopen, hopen]

theorem outcome?_append_of_open (hopen : calls.outcome? = none) :
    outcome? (calls ++ more) = outcome? more := by
  have hopen : calls.findSome? Call.closing? = none := hopen
  simp [outcome?, hopen]

theorem outcome?_append_of_closed (hclosed : calls.outcome? ≠ none) :
    outcome? (calls ++ more) = calls.outcome? := by
  obtain ⟨outcome, hsome⟩ := Option.ne_none_iff_exists'.mp hclosed
  have hfind : calls.findSome? Call.closing? = some outcome := hsome
  simp [outcome?, hfind]

/-- Once stopped, `takeWhile` takes nothing of what is added. -/
theorem takeWhile_append_of_stopped {α : Type} {p : α → Bool} {xs ys : List α}
    (hstop : ∃ x ∈ xs, p x = false) : (xs ++ ys).takeWhile p = xs.takeWhile p := by
  induction xs with
  | nil =>
    obtain ⟨x, hx, -⟩ := hstop
    cases hx
  | cons x xs ih =>
    rw [List.cons_append, List.takeWhile_cons, List.takeWhile_cons]
    cases hx : p x with
    | false => rfl
    | true =>
      obtain ⟨y, hy, hstop⟩ := hstop
      rcases List.mem_cons.mp hy with rfl | hy
      · rw [hx] at hstop
        cases hstop
      · rw [ih ⟨y, hy, hstop⟩]

theorem body_append_of_closed (hclosed : calls.outcome? ≠ none) :
    body (calls ++ more) = calls.body := by
  obtain ⟨outcome, hsome⟩ := Option.ne_none_iff_exists'.mp hclosed
  obtain ⟨c, hc, hclosing⟩ := List.exists_of_findSome?_eq_some hsome
  exact takeWhile_append_of_stopped ⟨c, hc, by simp [hclosing]⟩

theorem frames_append_of_closed (hclosed : calls.outcome? ≠ none) :
    frames (calls ++ more) = calls.frames := by
  rw [frames, outcome?_append_of_closed hclosed, body_append_of_closed hclosed, frames]

theorem headers_append_of_begun (hbegun : calls.payloads ≠ []) :
    headers (calls ++ more) = calls.headers := by
  have hstop : ∃ c ∈ calls, c.payload?.isNone = false := by
    obtain ⟨payload, hmem⟩ := List.exists_mem_of_ne_nil _ hbegun
    obtain ⟨c, hc, hpayload⟩ := List.mem_filterMap.mp hmem
    exact ⟨c, hc, by simp [hpayload]⟩
  have hpreamble : preamble (calls ++ more) = calls.preamble := takeWhile_append_of_stopped hstop
  rw [headers, hpreamble, headers]

theorem headers_append_of_silent (hsilent : calls.payloads = []) :
    headers (calls ++ more) = calls.headers ++ headers more := by
  have hall : ∀ c ∈ calls, c.payload?.isNone = true := by
    intro c hc
    rw [List.filterMap_eq_nil_iff.mp hsilent c hc]
    rfl
  have hself : calls.preamble = calls := by
    have happend : preamble (calls ++ []) = calls ++ preamble [] :=
      List.takeWhile_append_of_pos hall
    simpa [preamble] using happend
  have hpreamble : preamble (calls ++ more) = calls ++ preamble more :=
    List.takeWhile_append_of_pos hall
  rw [headers, hpreamble, List.filterMap_append, headers, hself, headers]

theorem outcome?_concat_idle (hclosing : c.closing? = none) :
    outcome? (calls ++ [c]) = calls.outcome? := by
  by_cases hopen : calls.outcome? = none
  · rw [outcome?_append_of_open hopen, hopen]
    simp [outcome?, hclosing]
  · exact outcome?_append_of_closed hopen

theorem payloads_body_concat_idle (hpayload : c.payload? = none) :
    payloads (body (calls ++ [c])) = calls.body.payloads := by
  by_cases hopen : calls.outcome? = none
  · rw [body_append_of_open hopen, body_eq_self hopen]
    cases hclosing : c.closing? <;> simp [body, hclosing, payloads_concat, hpayload]
  · rw [body_append_of_closed hopen]

/-- A call that is no response and does not end the output adds nothing. -/
theorem frames_concat_idle (hpayload : c.payload? = none) (hclosing : c.closing? = none) :
    frames (calls ++ [c]) = calls.frames := by
  by_cases hopen : calls.outcome? = none
  · have hopen' : outcome? (calls ++ [c]) = none := (outcome?_concat_idle hclosing).trans hopen
    have hpayloads : payloads (calls ++ [c]) = calls.payloads := by
      simp [payloads_concat, hpayload]
    rw [frames_of_open hopen, frames_of_open hopen']
    simp only [worth, begun, hpayloads]
    by_cases hsilent : calls.payloads = []
    · simp [hsilent]
    · rw [headers_append_of_begun hsilent]
  · exact frames_append_of_closed hopen

theorem frames_concat_send (hopen : calls.outcome? = none) (payload : Bytes) :
    frames (calls ++ [.send payload]) = worth none (calls ++ [.send payload]) :=
  frames_of_open ((outcome?_concat_idle rfl).trans hopen)

theorem frames_concat_closing (hopen : calls.outcome? = none)
    {outcome : Except StreamError Unit} (hclosing : c.closing? = some outcome) :
    frames (calls ++ [c]) = calls.worth (some outcome) := by
  have hbody : body (calls ++ [c]) = calls := by
    rw [body_append_of_open hopen]
    simp [body, hclosing]
  have houtcome : outcome? (calls ++ [c]) = some outcome := by
    rw [outcome?_append_of_open hopen]
    simp [outcome?, hclosing]
  rw [frames, hbody, houtcome]

/-- A handler that broke off is worth one error more. -/
theorem frames_concat_panic (hopen : calls.outcome? = none) (panic : Panic) :
    frames (calls ++ [.finish (.panicked panic)]) = calls.frames ++
      [⟨.error, Utf8.encode
        (StreamError.handlerFailed ("handler panicked: " ++ panic.describe)).message⟩] := by
  rw [frames_concat_closing hopen rfl, frames_of_open hopen]
  rfl

theorem worth_none_isPrefix (outcome : Option (Except StreamError Unit)) (calls : Speech) :
    calls.worth none <+: calls.worth outcome := by
  rcases outcome with _ | (e | ⟨⟩)
  · exact List.prefix_rfl
  · exact List.prefix_append _ _
  · show (if calls.payloads.isEmpty then [] else calls.begun) <+: _
    split
    · exact List.nil_prefix
    · exact ⟨_, (List.append_assoc _ _ _).symm⟩

theorem begun_append (hbegun : calls.payloads ≠ []) :
    begun (calls ++ more) = calls.begun ++ more.payloads.map fun p => ⟨.data, p⟩ := by
  rw [begun, headers_append_of_begun hbegun, payloads, List.filterMap_append, List.map_append,
    ← List.append_assoc]
  rfl

/-- **Whatever the handler says next, the frames only grow.** -/
theorem frames_isPrefix_append (calls more : Speech) :
    calls.frames <+: frames (calls ++ more) := by
  by_cases hopen : calls.outcome? = none
  · have hgrow : calls.worth none <+: worth none (calls ++ more.body) := by
      by_cases hsilent : calls.payloads = []
      · simp [worth, hsilent]
      · have hpayloads : payloads (calls ++ more.body) ≠ [] := by
          simp [payloads, List.filterMap_append] at hsilent ⊢
          intro hnone
          exact absurd hnone (by simpa using hsilent)
        simp [worth, hsilent, hpayloads, begun_append hsilent]
    rw [frames_of_open hopen, frames, body_append_of_open hopen]
    exact hgrow.trans (worth_none_isPrefix _ _)
  · exact ⟨[], by rw [List.append_nil, frames_append_of_closed hopen]⟩

theorem frames_isPrefix {spoken : Speech} (h : spoken <+: calls) :
    spoken.frames <+: calls.frames := by
  obtain ⟨more, rfl⟩ := h
  exact frames_isPrefix_append spoken more

end Speech

/-! ## The outbox keeps track of the speech -/

namespace Outbox

/-- What the outbox knows of a speech that has not ended the output. -/
structure Tracks (o : Outbox) (calls : Speech) : Prop where
  headersSent : o.headersSent = !calls.payloads.isEmpty
  headers : o.headersSent = false → o.headers = calls.headers
  trailers : o.trailers = calls.trailers

variable {o : Outbox} {calls : Speech} {c : Call}

theorem tracks_nil : Tracks {} [] := ⟨rfl, fun _ => rfl, rfl⟩

theorem Tracks.silent (h : o.Tracks calls) (hunsent : o.headersSent = false) :
    calls.payloads = [] := by
  have hempty := h.headersSent.symm.trans hunsent
  simpa using hempty

theorem Tracks.begun (h : o.Tracks calls) (hsent : o.headersSent = true) :
    calls.payloads ≠ [] := by
  have hempty := h.headersSent.symm.trans hsent
  simpa using hempty

/-- A call that is neither a response nor a pair leaves the outbox as it is. -/
theorem Tracks.idle (h : o.Tracks calls) (hpayload : c.payload? = none)
    (hheader : c.header? = none) (htrailer : c.trailer? = none) : o.Tracks (calls ++ [c]) where
  headersSent := by
    rw [h.headersSent]
    simp [Speech.payloads_concat, hpayload]
  headers := fun hunsent => by
    rw [h.headers hunsent, Speech.headers_append_of_silent (h.silent hunsent)]
    simp [Speech.headers, Speech.preamble, hpayload, hheader]
  trailers := by
    rw [h.trailers]
    simp [Speech.trailers_concat, htrailer]

theorem Tracks.setHeader (h : o.Tracks calls) (key value : String) :
    (o.setHeader key value).Tracks (calls ++ [.setHeader key value]) := by
  unfold Outbox.setHeader
  split
  · next hsent =>
    -- Too late: the headers were written with the first response.
    refine ⟨?_, ?_, ?_⟩
    · simpa [Speech.payloads_concat, Call.payload?] using h.headersSent
    · intro hunsent
      rw [hsent] at hunsent
      cases hunsent
    · simpa [Speech.trailers_concat, Call.trailer?] using h.trailers
  · next hsent =>
    refine ⟨?_, ?_, ?_⟩
    · simpa [Speech.payloads_concat, Call.payload?] using h.headersSent
    · intro hunsent
      rw [Speech.headers_append_of_silent (h.silent hunsent), ← h.headers hunsent]
      rfl
    · simpa [Speech.trailers_concat, Call.trailer?] using h.trailers

theorem Tracks.setTrailer (h : o.Tracks calls) (key value : String) :
    (o.setTrailer key value).Tracks (calls ++ [.setTrailer key value]) where
  headersSent := by
    show o.headersSent = _
    simpa [Speech.payloads_concat, Call.payload?] using h.headersSent
  headers := fun hunsent => by
    rw [Speech.headers_append_of_silent (h.silent hunsent), ← h.headers hunsent]
    exact (List.append_nil _).symm
  trailers := by
    rw [Speech.trailers_concat, ← h.trailers]
    rfl

theorem Tracks.worth_send (h : o.Tracks calls) (payload : Bytes) :
    Speech.worth none (calls ++ [.send payload]) =
      calls.worth none ++ o.staged ⟨.data, payload⟩ := by
  cases hsent : o.headersSent with
  | true =>
    have hbegun := h.begun hsent
    have hmore : Speech.payloads [.send payload] = [payload] := rfl
    simp [Speech.worth, staged, hsent, hbegun, Speech.payloads_concat, Call.payload?,
      Speech.begun_append hbegun, hmore]
  | false =>
    have hsilent := h.silent hsent
    have hheaders : Speech.headers (calls ++ [.send payload]) = o.headers := by
      rw [Speech.headers_append_of_silent hsilent, ← h.headers hsent]
      exact List.append_nil _
    simp [Speech.worth, staged, hsent, hsilent, Speech.payloads_concat, Call.payload?,
      Speech.begun, hheaders]

theorem Tracks.send (h : o.Tracks calls) (payload : Bytes) :
    (o.stage ⟨.data, payload⟩).flush.2.Tracks (calls ++ [.send payload]) where
  headersSent := by
    rw [headersSent_flush]
    cases hsent : o.headersSent <;>
      simp [stage, stageHeaders, stageTrailers, hsent, Speech.payloads_concat, Call.payload?]
  headers := fun hunsent => by
    rw [headersSent_flush] at hunsent
    cases hsent : o.headersSent <;>
      simp [stage, stageHeaders, stageTrailers, hsent] at hunsent
  trailers := by
    rw [trailers_flush, Speech.trailers_concat, ← h.trailers]
    cases hsent : o.headersSent <;>
      simp [stage, stageHeaders, stageTrailers, hsent, Call.trailer?]

/-- The end of the output takes with it the trailers, and the headers if there was no
response; an error takes neither. -/
theorem Tracks.worth_closing (h : o.Tracks calls) (outcome : Except StreamError Unit) :
    calls.worth (some outcome) = calls.worth none ++ o.staged (.closing outcome) := by
  rcases outcome with e | ⟨⟩
  · simp [Speech.worth, staged, Frame.closing]
  · cases hsent : o.headersSent with
    | true =>
      have hbegun := h.begun hsent
      simp [Speech.worth, staged, Frame.closing, hsent, hbegun, h.trailers]
    | false =>
      have hsilent := h.silent hsent
      simp [Speech.worth, staged, Frame.closing, hsent, hsilent, Speech.begun, h.trailers,
        h.headers hsent]

end Outbox
end Switchboard
