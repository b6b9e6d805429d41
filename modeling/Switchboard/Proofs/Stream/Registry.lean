import Switchboard.Proofs.Stream.Sound

/-!
# Registry — which sessions are live

The registry holds the sessions that still matter to the front end: those that were not
ended by force and have a half open or output pending. What retires a session is not one
event but a condition that several operations can bring about; `Sound` has the condition,
and here it is read as a statement about the registry of a manager.
-/

namespace Switchboard

namespace Session

variable {s : Session} {op : Operation} {r : Response} {t : Turn} {past : History}

/-! ## Handlers that are through -/

theorem Precedes.isTerminal {s' : Session} (h : s.Precedes s')
    (hterminal : s.halves.isTerminal = true) : s'.halves.isTerminal = true := by
  have hshut : s.halves.inputOpen = false ∧ s.halves.outputOpen = false := by
    simpa [Halves.isTerminal] using hterminal
  cases hin : s'.halves.inputOpen with
  | true => exact absurd (h.inputOpen hin) (by simp [hshut.1])
  | false =>
    cases hout : s'.halves.outputOpen with
    | true => exact absurd (h.outputOpen hout) (by simp [hshut.2])
    | false => simp [Halves.isTerminal, hin, hout]

/-- With the handler both halves of the session end. -/
theorem Effect.isTerminal (heffect : Effect s op r t) {now : Instant} {id : SessionId}
    {ending : Ending} (hop : op = .call now id (.finish ending))
    (hanswered : ∃ answer, r = .answered (.ok answer)) (hverdict : ending.verdict ≠ none) :
    t.session.halves.isTerminal = true := by
  obtain ⟨answer, rfl⟩ := hanswered
  subst hop
  cases heffect with
  | refused hrefused => cases hrefused
  | finished | departed => rfl
  | escaped hnone => exact absurd hnone hverdict

/-- Whoever is live with both halves closed keeps back output for a front end that is not
ready. -/
theorem Sound.unready_of_terminal (hs : s.Sound) (hlive : s.live = true)
    (hterminal : s.halves.isTerminal = true) : s.halves.ready = false := by
  cases hready : s.halves.ready with
  | false => rfl
  | true =>
    obtain ⟨-, hin | hout | hpending⟩ := hs.live.mp hlive
    · simp [Halves.isTerminal, hin] at hterminal
    · simp [Halves.isTerminal, hout] at hterminal
    · exact absurd (hs.flushed hready) hpending

/-- Both halves are closed if the handler ended and the session learnt of it. -/
def Spent (s : Session) (past : History) : Prop :=
  ∀ ending, Call.finish ending ∈ past.calls → ending.verdict ≠ none →
    s.halves.isTerminal = true

theorem Spent.step (h : s.Spent past) (hs : s.Sound) (heffect : Effect s op r t) :
    t.session.Spent (past ++ [s.episodeOf op r t]) := by
  intro ending hmem hverdict
  rw [History.calls_append, History.calls_singleton] at hmem
  rcases List.mem_append.mp hmem with hbefore | hnow
  · exact (heffect.precedes hs).isTerminal (h ending hbefore hverdict)
  · have haccepted : (s.episodeOf op r t).accepted? = some (.finish ending) := by
      simpa using hnow
    unfold Episode.accepted? at haccepted
    split at haccepted
    · next hop hanswered =>
      cases haccepted
      exact heffect.isTerminal hop ⟨_, hanswered⟩ hverdict
    · cases haccepted

end Session

namespace Manager

variable {capacity earlier : Nat} {ops : List Operation} {id : SessionId} {s : Session}
variable {m : Manager}

/-! ## The registry -/

/-- The identities of the live sessions, in the order of the registry. -/
def liveIds (m : Manager) : List SessionId := m.registry.map (·.id)

theorem liveIds_sublist (m : Manager) : m.liveIds.Sublist m.ids :=
  List.filter_sublist.map _

/-- In a list that grows by identity, whoever is there is found. -/
theorem find?_of_increasing {α : Type} {l : List α} {f : α → SessionId} {a : α}
    (hincreasing : (l.map f).Pairwise fun a b => a.number < b.number) (ha : a ∈ l) :
    l.find? (f · = f a) = some a := by
  obtain ⟨front, back, hsplit⟩ := List.append_of_mem ha
  have hfront : front.find? (f · = f a) = none := by
    refine List.find?_eq_none.mpr fun b hb hsame => ?_
    rw [hsplit, List.map_append, List.map_cons, List.pairwise_append] at hincreasing
    have hlt := hincreasing.2.2 (f b) (List.mem_map_of_mem hb) (f a) List.mem_cons_self
    rw [of_decide_eq_true hsame] at hlt
    exact Int.lt_irrefl _ hlt
  rw [hsplit, List.find?_append, hfront]
  simp

/-- No identity was given out twice, so whoever is known is found. -/
theorem find?_of_mem (hincreasing : m.ids.Pairwise fun a b => a.number < b.number)
    (hs : s ∈ m.sessions) : m.find? s.id = some s := find?_of_increasing hincreasing hs

theorem mem_liveIds_iff (hincreasing : m.ids.Pairwise fun a b => a.number < b.number)
    (h : m.find? id = some s) : id ∈ m.liveIds ↔ s.live = true := by
  constructor
  · intro hmem
    obtain ⟨u, hu, rfl⟩ := List.mem_map.mp hmem
    obtain ⟨hu, hlive⟩ := List.mem_filter.mp hu
    rw [find?_of_mem hincreasing hu] at h
    cases h
    exact hlive
  · intro hlive
    exact List.mem_map.mpr
      ⟨s, List.mem_filter.mpr ⟨mem_sessions_of_find? h, hlive⟩, id_of_find? h⟩

theorem precedes_after (hs : s.Sound) (ops : List Operation) :
    (s.after ops).Sound ∧ s.Precedes (s.after ops) := by
  induction ops generalizing s with
  | nil => exact ⟨hs, .refl s⟩
  | cons op ops ih =>
    obtain ⟨hsound, hlater⟩ := ih (hs.next op)
    exact ⟨hsound, ((hs.effect op).precedes hs).trans hlater⟩

theorem spent (h : ((fresh capacity earlier).after ops).find? id = some s) :
    s.Spent ((fresh capacity earlier).history id ops) := by
  refine (invariant (P := fun past s => s.Spent past) ?_ ?_ h).2
  · intro past shape now hvoid ending hmem
    rw [History.calls_of_void hvoid] at hmem
    cases hmem
  · intro past s op r t hs heffect hpast
    exact hpast.step hs heffect

/-- **The registry holds exactly the sessions that still matter.** It is in opening order.
A session that was opened is in it if and only if it was not ended by force and has a half
open or output pending. For those in it, input and readiness, which are each kept twice,
are kept alike; and what is pending of an output that ended has its end in it. In later
runs halves stay closed, readiness stays and whoever left does not come back. A session
whose handler ended, and that the front end is ready for, is not in it. -/
theorem mem_registry_iff (hid : id ∈ (fresh capacity earlier).opened ops) :
    let m := (fresh capacity earlier).after ops
    let past := (fresh capacity earlier).history id ops
    m.liveIds.Sublist ((fresh capacity earlier).opened ops) ∧
    ∃ s, m.find? id = some s ∧
      (id ∈ m.liveIds ↔ past.ended = false ∧
        (s.halves.inputOpen = true ∨ s.halves.outputOpen = true ∨ s.outbox.pending ≠ [])) ∧
      (id ∈ m.liveIds → s.cause = none ∧ s.silenced = false ∧
        s.inbox.sender = s.halves.inputOpen ∧ s.halves.ready = s.outbox.ready ∧
        (s.halves.ready = true → s.outbox.pending = []) ∧
        (s.halves.isTerminal = true → s.halves.ready = false ∧
          ∃ front last, s.outbox.pending = front ++ [last] ∧ last.kind.isTerminal = true)) ∧
      (∀ more, ∃ s', (m.after more).find? id = some s' ∧ s.Precedes s' ∧
        (id ∈ (m.after more).liveIds → id ∈ m.liveIds)) ∧
      (∀ ending, Call.finish ending ∈ past.calls → ending.verdict ≠ none →
        past.readied = true → id ∉ m.liveIds) := by
  intro m past
  have hm : m.WellFormed := wellFormed_after (wellFormed_fresh capacity earlier) ops
  have hids : m.ids = (fresh capacity earlier).opened ops := ids_after ops _
  refine ⟨hids ▸ m.liveIds_sublist, ?_⟩
  obtain ⟨s, h⟩ : ∃ s, m.find? id = some s := by
    refine Option.ne_none_iff_exists'.mp fun hnone => ?_
    exact (find?_eq_none_iff m id).mp hnone (hids ▸ hid)
  have hs : s.Sound := sound h
  have hmem : id ∈ m.liveIds ↔ s.live = true := mem_liveIds_iff hm.increasing h
  refine ⟨s, h, ?_⟩
  have hforced : s.cause.isSome = past.ended := isSome_cause h
  have hcause : s.cause = none ↔ past.ended = false := by
    rw [← hforced, Option.isSome_eq_false_iff, Option.isNone_iff_eq_none]
  refine ⟨?_, ?_, ?_, ?_⟩
  · rw [hmem, hs.live, hcause]
  · intro hin
    have hlive := hmem.mp hin
    have hnone := hs.cause_of_live hlive
    refine ⟨hnone, hs.silenced_of_cause hnone, hs.sender, hs.ready.symm, hs.flushed, ?_⟩
    intro hterminal
    have hshut : s.halves.inputOpen = false ∧ s.halves.outputOpen = false := by
      simpa [Halves.isTerminal] using hterminal
    have hunready := hs.unready_of_terminal hlive hterminal
    exact ⟨hunready, hs.closing hnone hshut.2 hunready⟩
  · intro more
    obtain ⟨-, hprecedes⟩ := precedes_after hs more
    have hlater : (m.after more).find? id = some (s.after more) := find?_after hm h more
    refine ⟨s.after more, hlater, hprecedes, ?_⟩
    rw [mem_liveIds_iff (wellFormed_after hm more).increasing hlater, hmem]
    exact hprecedes.live
  · intro ending hcall hverdict hreadied hin
    have hlive := hmem.mp hin
    have hnone := hs.cause_of_live hlive
    have hready : s.halves.ready = true := (ready_eq_readied h hnone).trans hreadied
    rw [hs.unready_of_terminal hlive (spent h ending hcall hverdict)] at hready
    cases hready

/-- A handler that ended before the front end was ready leaves its session in the registry,
with the end of the output pending. -/
theorem mem_registry_iff_waiting :
    let ops : List Operation :=
      [.openSession ⟨0⟩ .serverStream, .call ⟨1⟩ ⟨1⟩ (.finish (.returned (.ok ())))]
    let m := (fresh 1 0).after ops
    (⟨1⟩ : SessionId) ∈ m.liveIds ∧ ∃ s, m.find? ⟨1⟩ = some s ∧ s.halves.ready = false ∧
      ∃ front last, s.outbox.pending = front ++ [last] ∧ last.kind.isTerminal = true := by
  intro ops m
  have hopened : (⟨1⟩ : SessionId) ∈ (fresh 1 0).opened ops := by decide
  obtain ⟨-, s, hfind, -, hin, -, -⟩ := mem_registry_iff hopened
  have hlive : (⟨1⟩ : SessionId) ∈ m.liveIds := by decide
  obtain ⟨-, -, -, -, -, hclosing⟩ := hin hlive
  refine ⟨hlive, s, hfind, hclosing ?_⟩
  cases hfind
  rfl

end Manager
end Switchboard
