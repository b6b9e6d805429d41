import Switchboard.Proofs.Stream.Hosting
import Switchboard.Proofs.Stream.Stirring

/-!
# Expiry — the end of sessions that have been idle for too long

A look for idle sessions ends those that are *due*: live, and idle for the timeout or longer.
What happens to each depends on what it still owes the front end; nothing happens to the others,
and a second look at the same time finds nobody.
-/

namespace Switchboard

namespace Session

/-- The session has been idle for the timeout or longer. -/
def due (now : Instant) (timeout : Duration) (s : Session) : Bool :=
  timeout.nanos ≤ (s.idle now).nanos

end Session

namespace Manager

variable {m : Manager} {now : Instant} {timeout : Duration}

/-- The error that a session is told which was idle for too long. -/
def timedOut (s : Session) : Delivery :=
  ⟨s.id, ⟨.error, Utf8.encode (StreamError.timeout s.id).message⟩⟩

/-- Where nobody is due, nothing happens. -/
theorem failDue_of_none {due : Session → Bool} (cause : Session → StreamError)
    {ss : List Session} (h : ∀ s ∈ ss, s.live = true → due s = false) :
    failDue due cause ss = (ss, {}, 0) := by
  induction ss with
  | nil => rfl
  | cons s ss ih =>
    have hlater := ih fun t ht => h t (List.mem_cons_of_mem s ht)
    have hnow : (s.live && due s) = false := by
      cases hlive : s.live with
      | false => rfl
      | true => exact h s List.mem_cons_self hlive
    simp [failDue, hlater, hnow]

theorem failIf_of_not_due {s : Session} {due : Bool} (h : s.live = true → due = false)
    (cause : StreamError) : s.failIf due cause = .still s := by
  have hnot : (s.live && due) = false := by
    cases hlive : s.live with
    | false => rfl
    | true => exact h hlive
  simp [Session.failIf, hnot]

/-- What one look for idle sessions comes to. -/
theorem expireIdle_eq (h : m.Regular) (now : Instant) (timeout : Duration) :
    let o := m.expireIdle now timeout
    o.answer = (m.registry.filter (·.due now timeout)).length ∧
      o.state.registry = m.registry.filter (!·.due now timeout) ∧
      o.activity.deliveries =
        ((m.registry.filter (·.due now timeout)).filter (·.owed)).map timedOut := by
  obtain ⟨hcount, hdeliveries, hregistry⟩ :=
    failDue_eq h (·.due now timeout) fun s => .timeout s.id
  exact ⟨hcount, hregistry, hdeliveries⟩

/-- A session that is not due is afterwards what it was. -/
theorem find?_expireIdle {id : SessionId} {s : Session} (hs : m.find? id = some s)
    (hkept : s.live = true → s.due now timeout = false) :
    (m.expireIdle now timeout).state.find? id = some s := by
  show List.find? _ (failDue _ _ m.sessions).1 = _
  rw [sessions_failDue, find?_map_session id fun s => Session.id_failIf _ _ s]
  have hfind : m.sessions.find? (·.id = id) = some s := hs
  rw [hfind, Option.map_some]
  exact congrArg (fun t : Turn => some t.session) (failIf_of_not_due hkept _)

/-- A second look at the same time finds nobody. -/
theorem expireIdle_again (h : m.Regular) (now : Instant) (timeout : Duration) :
    let o := m.expireIdle now timeout
    o.state.expireIdle now timeout = { answer := 0, state := o.state } := by
  intro o
  obtain ⟨-, hregistry, -⟩ := expireIdle_eq h now timeout
  have hnone : ∀ s ∈ o.state.sessions, s.live = true → s.due now timeout = false := by
    intro s hs hlive
    have hmem : s ∈ o.state.registry := List.mem_filter.mpr ⟨hs, hlive⟩
    rw [hregistry] at hmem
    simpa using (List.mem_filter.mp hmem).2
  have hstill : failDue (·.due now timeout) (fun s => .timeout s.id) o.state.sessions =
      (o.state.sessions, {}, 0) := failDue_of_none _ hnone
  have hlook : o.state.expireIdle now timeout =
      { answer := (failDue (·.due now timeout) (fun s => .timeout s.id) o.state.sessions).2.2
        state := { o.state with
          sessions := (failDue (·.due now timeout) (fun s => .timeout s.id) o.state.sessions).1 }
        activity :=
          (failDue (·.due now timeout) (fun s => .timeout s.id) o.state.sessions).2.1 } := rfl
  rw [hlook, hstill]

/-- **Idle expiry is exact.** At every moment of a run, a look for idle sessions ends those live
sessions that have been idle for at least the timeout, one after the other by their identities. It
counts them, leaves all the others as they were, and tells the front end of a timeout for those
that were still owed output and for nobody else. The same look taken again at once ends nothing.
And for how long a session has been idle is a matter of its history: its clock shows the last
operation that stirred it.

The front end may close a session from inside the delivery of its own timeout. Closes of other
sessions from there are outside these runs; one that was due in the same look would then not be
counted. -/
theorem idle_expiry_exact (capacity earlier : Nat) (heard : Bool)
    (hangUps : List (SessionId × Nat)) (ops : List Operation) :
    let m₀ : Manager := { fresh capacity earlier with heard, hangUps }
    let m := m₀.after ops
    m.ids.Pairwise (fun a b => a.number < b.number) ∧
      (∀ now timeout,
        let due := fun s : Session => s.due now timeout
        let o := m.expireIdle now timeout
        o.answer = (m.registry.filter due).length ∧
          o.state.registry = m.registry.filter (!due ·) ∧
          o.activity.deliveries = ((m.registry.filter due).filter (·.owed)).map timedOut ∧
          (∀ id s, m.find? id = some s → (s.live = true → due s = false) →
            o.state.find? id = some s) ∧
          o.state.expireIdle now timeout = { answer := 0, state := o.state }) ∧
      ∀ id, (m.find? id).map (·.lastActivity) = (m₀.history id ops).lastStir? := by
  intro m₀ m
  have hnumbered : m₀.Numbered 1 := ⟨.nil, nofun, Nat.succ_pos earlier⟩
  have hregular : m.Regular := Regular.after (fun s hs => absurd hs List.not_mem_nil) ops
  refine ⟨(hnumbered.after ops).increasing, fun now timeout => ?_, fun id => ?_⟩
  · obtain ⟨hanswer, hregistry, hdeliveries⟩ := expireIdle_eq hregular now timeout
    refine ⟨hanswer, hregistry, hdeliveries, fun id s hs hkept => ?_, ?_⟩
    · exact find?_expireIdle hs hkept
    · exact expireIdle_again hregular now timeout
  · have hclocked : m₀.Clocked := fun s hs => absurd hs List.not_mem_nil
    rw [lastActivity_after hnumbered hclocked id ops]
    exact Option.or_none

end Manager
end Switchboard
