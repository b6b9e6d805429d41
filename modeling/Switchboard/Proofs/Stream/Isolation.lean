import Switchboard.Proofs.Stream.Birth

/-!
# Isolation — the sessions of a manager carry no information to one another

All that a run shows of a session comes from operations of its own: those that name it,
the one that opened it, and those that go to all sessions. `History.own` is what they come
to, and of all others nothing comes (`Idle`). A handler is a `Conduct`: it makes its next
call on the answers to the calls before. Two runs in which a session has the same handler
and its own operations are the same, whatever the handlers of other sessions do and
whatever is done to these, are the same run to the session.

The proof goes by what a single place in a manager is: empty until the session is opened,
and from then on the session alone (`Place`).
-/

namespace Switchboard

/-! ## What is a session's own -/

namespace Operation

/-- The call of a handler. -/
def call? : Operation → Option Call
  | call _ _ c => some c
  | _ => none

/-- What is known of an operation before a handler was asked for its call: that the handler
has its turn. -/
def cue : Operation → Operation
  | call now id _ => call now id .receive
  | op => op

end Operation

namespace Episode

/-- The operation names the session, opened it, or goes to all sessions. -/
def isOwn (id : SessionId) (e : Episode) : Bool :=
  match e.op with
  | .openSession .. => e.before.isNone && e.after.isSome
  | op => op.concerns id

/-- What the handler was answered. -/
def answer? (e : Episode) : Option Answer :=
  match e.response with
  | .answered answer => some answer
  | _ => none

/-- Nothing came of the operation for the session. -/
structure Idle (e : Episode) : Prop where
  response : e.response = .nothing
  frames : e.frames = []
  woken : e.woken = []
  phase : e.after = e.before

end Episode

/-- What came of a session's own operations. -/
def History.own (id : SessionId) (h : History) : History := h.filter (·.isOwn id)

/-- A handler: its next call, after the answers to the calls before. -/
abbrev Conduct := List Answer → Call

/-- The calls of a history are those that the handler makes; `heard` is what it was answered
before. -/
def Conduct.Makes (f : Conduct) : List Answer → History → Prop
  | _, [] => True
  | heard, e :: h => (∀ c ∈ e.op.call?, c = f heard) ∧ f.Makes (heard ++ e.answer?.toList) h

/-! ## A place in a manager -/

/-- What a manager of the given capacity keeps under an identity: nothing until the session
is opened. -/
abbrev Place := Option Session

namespace Place

variable (capacity : Nat) (id : SessionId)

/-- The session at a place after an operation; a place is taken by the opening that names it. -/
def next (op : Operation) : Place → Place
  | some s => some (s.next op)
  | none =>
    match op with
    | .openSession now shape => some (.fresh id shape capacity true [] now)
    | _ => none

/-- What an operation of its own comes to for the session that has the place. -/
def episode (op : Operation) (x : Place) : Episode :=
  match x with
  | some s => s.episode op
  | none =>
    { op, response := if op.subject? = some id then op.unknown else .nothing, frames := [],
      woken := [], before := none, after := (next capacity id op x).bind Session.phase? }

/-- The place after operations, one after the other. -/
def after (ops : List Operation) (x : Place) : Place :=
  ops.foldl (fun x op => next capacity id op x) x

/-- The history of the session at a place, from its own operations alone. -/
def history : List Operation → Place → History
  | [], _ => []
  | op :: ops, x => episode capacity id op x :: history ops (next capacity id op x)

@[simp] theorem op_episode (op : Operation) (x : Place) : (episode capacity id op x).op = op := by
  cases x <;> rfl

theorem map_op_history (ops : List Operation) (x : Place) :
    (history capacity id ops x).map (·.op) = ops := by
  induction ops generalizing x with
  | nil => rfl
  | cons op ops ih =>
    simp only [history, List.map_cons, op_episode, ih]

end Place

/-! ## One operation of a manager -/

namespace Session

/-- An operation that is not its own is nothing to a session. -/
theorem idle_episode {op : Operation} {s : Session} (h : (s.episode op).isOwn s.id = false) :
    (s.episode op).Idle ∧ s.next op = s := by
  have hperform : s.perform op = (.nothing, .still s) := by
    cases op with
    | openSession now shape => rfl
    | expireIdle now timeout | shutdown => cases h
    | send | closeInput | close | markReady | call | interrupt =>
      exact perform_of_not_concerns h
  refine ⟨⟨?_, ?_, ?_, ?_⟩, ?_⟩ <;> simp [episode, next, hperform, Turn.still]

end Session

namespace Manager

variable {m : Manager} {id : SessionId} {op : Operation}

theorem phase?_eq_bind (m : Manager) (id : SessionId) :
    m.phase? id = (m.find? id).bind Session.phase? := by
  cases hfind : m.find? id with
  | none => simp [phase?, live?, hfind]
  | some s => exact phase?_of_find? hfind

theorem episode_of_absent (hnone : m.find? id = none)
    (hissued : m.counter.issued id.number = false) :
    m.episode id op =
      { op, response := if op.subject? = some id then op.unknown else .nothing, frames := [],
        woken := [], before := none,
        after := ((m.step op).state.find? id).bind Session.phase? } := by
  obtain ⟨hframes, hwoken⟩ := misses_step hnone op
  have hresponse : (if op.subject? = some id then (m.step op).answer else .nothing) =
      if op.subject? = some id then op.unknown else .nothing := by
    split
    · next hsub => exact answer_of_not_issued hnone hissued hsub
    · rfl
  simp only [episode, hresponse, hframes, hwoken, phase?_eq_bind, hnone]
  rfl

/-- Whoever is found later and not now was not issued yet. -/
theorem not_issued_of_find?_after (hm : m.WellFormed) {ops : List Operation} {s : Session}
    (hnone : m.find? id = none) (h : (m.after ops).find? id = some s) :
    m.counter.issued id.number = false := by
  obtain ⟨before, -, -, -, -, -, hnumber, -, -, -⟩ := exists_history hm hnone h
  have hle := counter_le_after before m
  rw [Bool.eq_false_iff, ne_eq, Counter.issued_iff]
  omega

/-- What a step of the manager is to one place: all that it is to the place alone if it is
the session's own, and nothing otherwise. -/
inductive Seen (m : Manager) (id : SessionId) (op : Operation) : Prop where
  | own (hown : (m.episode id op).isOwn id = true)
      (hepisode : m.episode id op = Place.episode m.capacity id op (m.find? id))
      (hnext : (m.step op).state.find? id = Place.next m.capacity id op (m.find? id))
  | other (hown : (m.episode id op).isOwn id = false) (hidle : (m.episode id op).Idle)
      (hnext : (m.step op).state.find? id = m.find? id)

theorem seen_of_find? (hm : m.WellFormed) {s : Session} (h : m.find? id = some s)
    (op : Operation) : m.Seen id op := by
  have hepisode := episode_of_find? hm h op
  have hnext := find?_step hm h op
  cases hown : (m.episode id op).isOwn id with
  | true =>
    refine .own hown ?_ ?_
    · rw [h]
      exact hepisode
    · rw [h]
      exact hnext
  | false =>
    rw [hepisode, ← id_of_find? h] at hown
    obtain ⟨hidle, hstill⟩ := Session.idle_episode hown
    refine .other ?_ ?_ ?_
    · rw [hepisode, ← id_of_find? h]
      exact hown
    · rw [hepisode]
      exact hidle
    · rw [hnext, hstill, h]

theorem seen_of_absent (hm : m.WellFormed) (hheard : m.heard = true)
    (hnone : m.find? id = none) (hissued : m.counter.issued id.number = false)
    (op : Operation) : m.Seen id op := by
  have hepisode : m.episode id op = _ := episode_of_absent hnone hissued
  cases hafter : (m.step op).state.find? id with
  | some s =>
    obtain ⟨now, shape, rfl, -, rfl⟩ := opens_of_find? hm hnone hafter
    have hnext : (m.step (.openSession now shape)).state.find? id =
        Place.next m.capacity id (.openSession now shape) (m.find? id) := by
      rw [hafter, hnone, hheard]
      rfl
    refine .own ?_ ?_ hnext
    · rw [hepisode, hafter]
      rfl
    · rw [hepisode, hnext, hnone]
      rfl
  | none =>
    cases hown : (m.episode id op).isOwn id with
    | true =>
      -- Whoever is not there was not opened, so the place stays empty.
      have hnext : Place.next m.capacity id op none = none := by
        cases op with
        | openSession now shape =>
          rw [hepisode, hafter] at hown
          cases hown
        | _ => rfl
      refine .own hown ?_ ?_
      · rw [hepisode, hafter, hnone]
        simp only [Place.episode, hnext]
      · rw [hafter, hnone, hnext]
    | false =>
      refine .other hown ?_ (hafter.trans hnone.symm)
      rw [hepisode, hafter] at hown ⊢
      refine ⟨?_, rfl, rfl, rfl⟩
      show (if op.subject? = some id then op.unknown else .nothing) = .nothing
      split
      · next hsub =>
        cases op with
        | openSession | expireIdle | shutdown => cases hsub
        | send | closeInput | close | markReady | call | interrupt =>
          simp [Episode.isOwn, Operation.concerns, hsub] at hown
      · rfl

/-! ## A run of a manager -/

/-- Nothing comes of what is not the session's own, and the rest is what comes of it for the
place alone. -/
theorem own_history (hm : m.WellFormed) (hheard : m.heard = true) {ops : List Operation}
    {s : Session} (h : (m.after ops).find? id = some s) :
    (∀ e ∈ m.history id ops, e.isOwn id = false → e.Idle) ∧
    ∃ own, (m.history id ops).own id = Place.history m.capacity id own (m.find? id) ∧
      (m.after ops).find? id = Place.after m.capacity id own (m.find? id) := by
  induction ops generalizing m with
  | nil => exact ⟨fun e he => absurd he List.not_mem_nil, [], rfl, rfl⟩
  | cons op ops ih =>
    obtain ⟨hcapacity, hkeeps⟩ := capacity_step op m
    have hseen : m.Seen id op := by
      cases hfind : m.find? id with
      | some s => exact seen_of_find? hm hfind op
      | none =>
        exact seen_of_absent hm hheard hfind (not_issued_of_find?_after hm hfind h) op
    have hrest : ((m.step op).state.after ops).find? id = some s := h
    obtain ⟨hidle, own, hown, hafter⟩ :=
      ih (wellFormed_step hm op) (hkeeps.trans hheard) hrest
    rw [hcapacity] at hown hafter
    have hcons : m.history id (op :: ops) =
        m.episode id op :: (m.step op).state.history id ops := rfl
    rw [hcons]
    cases hseen with
    | own hmine hepisode hnext =>
      refine ⟨?_, op :: own, ?_, ?_⟩
      · intro e he hother
        rcases List.mem_cons.mp he with rfl | he
        · rw [hmine] at hother
          cases hother
        · exact hidle e he hother
      · rw [History.own, List.filter_cons_of_pos hmine, ← History.own, hown, hnext, hepisode]
        rfl
      · show (Manager.after ops (m.step op).state).find? id = _
        rw [hafter, hnext]
        rfl
    | other hother hnothing hnext =>
      refine ⟨?_, own, ?_, ?_⟩
      · intro e he hnot
        rcases List.mem_cons.mp he with rfl | he
        · exact hnothing
        · exact hidle e he hnot
      · rw [History.own, List.filter_cons_of_neg (by simp [hother]), ← History.own, hown,
          hnext]
      · show (Manager.after ops (m.step op).state).find? id = _
        rw [hafter, hnext]

end Manager

/-! ## Two runs -/

namespace Place

variable {capacity : Nat} {id : SessionId} {f : Conduct}

theorem eq_of_cue {op op' : Operation} (hcue : op.cue = op'.cue)
    (hcall : ∀ c c', op.call? = some c → op'.call? = some c' → c = c') : op = op' := by
  cases op with
  | call now id c =>
    cases op' with
    | call now' id' c' =>
      obtain rfl := hcall c c' rfl rfl
      cases hcue
      rfl
    | _ => cases hcue
  | _ =>
    cases op' with
    | call => cases hcue
    | _ => exact hcue

/-- What a handler does on a place is settled by what is done to the place. -/
theorem eq_of_makes {ops ops' : List Operation} {heard : List Answer} {x : Place}
    (hcues : ops.map Operation.cue = ops'.map Operation.cue)
    (hf : f.Makes heard (history capacity id ops x))
    (hf' : f.Makes heard (history capacity id ops' x)) : ops = ops' := by
  induction ops generalizing ops' heard x with
  | nil => exact (List.map_eq_nil_iff.mp hcues.symm).symm
  | cons op ops ih =>
    cases ops' with
    | nil => cases hcues
    | cons op' ops' =>
      rw [List.map_cons, List.map_cons, List.cons.injEq] at hcues
      obtain ⟨hcall, hrest⟩ := hf
      obtain ⟨hcall', hrest'⟩ := hf'
      rw [op_episode] at hcall hcall'
      -- The handler has heard the same in both runs, so it makes the same call.
      have hop : op = op' := by
        refine eq_of_cue hcues.1 fun c c' hc hc' => ?_
        rw [hcall c hc, hcall' c' hc']
      subst hop
      rw [ih hcues.2 hrest hrest']

end Place

namespace History

theorem delivered_own {h : History} {id : SessionId}
    (hidle : ∀ e ∈ h, e.isOwn id = false → e.Idle) : (h.own id).delivered = h.delivered := by
  induction h with
  | nil => rfl
  | cons e h ih =>
    have hrest := ih fun e' he' => hidle e' (List.mem_cons_of_mem e he')
    have hcons : delivered (e :: h) = e.frames ++ delivered h := List.flatMap_cons
    cases hown : e.isOwn id with
    | true =>
      rw [hcons, ← hrest, own, List.filter_cons_of_pos hown]
      exact List.flatMap_cons
    | false =>
      rw [hcons, ← hrest, own, List.filter_cons_of_neg (by simp [hown]),
        (hidle e List.mem_cons_self hown).frames]
      rfl

end History

namespace Manager

variable {capacity earlier earlier' : Nat} {ops ops' : List Operation} {id : SessionId}
variable {f : Conduct}

theorem exists_find?_of_opened (hid : id ∈ (fresh capacity earlier).opened ops) :
    ∃ s, ((fresh capacity earlier).after ops).find? id = some s := by
  refine Option.ne_none_iff_exists'.mp fun hnone => ?_
  rw [find?_eq_none_iff, ids_after] at hnone
  exact hnone hid

/-- **Sessions do not interfere.** Two runs open a session under the same identity, with the
same handler and on managers of the same capacity. If the session's own operations are the
same in both, then all that comes of them is the same: deliveries, answers to the front
end and to the handler, sends that are woken, and phases. Nothing comes of the operations
between them, so the deliveries of the whole runs are the same, and so is the session in
the end. -/
theorem own_history_eq (hid : id ∈ (fresh capacity earlier).opened ops)
    (hid' : id ∈ (fresh capacity earlier').opened ops')
    (hf : f.Makes [] (((fresh capacity earlier).history id ops).own id))
    (hf' : f.Makes [] (((fresh capacity earlier').history id ops').own id))
    (hcues : (((fresh capacity earlier).history id ops).own id).map (·.op.cue) =
      (((fresh capacity earlier').history id ops').own id).map (·.op.cue)) :
    let past := (fresh capacity earlier).history id ops
    let past' := (fresh capacity earlier').history id ops'
    past.own id = past'.own id ∧
    (∀ e ∈ past, e.isOwn id = false → e.Idle) ∧
    (∀ e ∈ past', e.isOwn id = false → e.Idle) ∧
    past.delivered = past'.delivered ∧
    ((fresh capacity earlier).after ops).find? id =
      ((fresh capacity earlier').after ops').find? id := by
  intro past past'
  obtain ⟨s, h⟩ := exists_find?_of_opened hid
  obtain ⟨s', h'⟩ := exists_find?_of_opened hid'
  obtain ⟨hidle, own, hown, hafter⟩ := own_history (wellFormed_fresh capacity earlier) rfl h
  obtain ⟨hidle', own', hown', hafter'⟩ :=
    own_history (wellFormed_fresh capacity earlier') rfl h'
  have hempty : (fresh capacity earlier).find? id = (fresh capacity earlier').find? id := rfl
  rw [← hempty] at hown' hafter'
  have hsame : own = own' := by
    rw [hown] at hf
    rw [hown'] at hf'
    refine Place.eq_of_makes ?_ hf hf'
    have hops := Place.map_op_history capacity id own ((fresh capacity earlier).find? id)
    have hops' := Place.map_op_history capacity id own' ((fresh capacity earlier).find? id)
    rw [← hops, ← hops', List.map_map, List.map_map]
    rw [hown, hown'] at hcues
    exact hcues
  have hequal : past.own id = past'.own id := by
    show ((fresh capacity earlier).history id ops).own id =
      ((fresh capacity earlier').history id ops').own id
    rw [hown, hown', hsame]
    rfl
  refine ⟨hequal, hidle, hidle', ?_, ?_⟩
  · rw [← History.delivered_own hidle, ← History.delivered_own hidle']
    exact congrArg History.delivered hequal
  · rw [hafter, hafter', hsame]
    rfl

/-- A session beside another that is fed and closed, and the same session on its own in a
manager that comes after one session elsewhere. -/
theorem own_history_eq_neighbour :
    let ops : List Operation :=
      [.openSession ⟨0⟩ .bidi, .openSession ⟨0⟩ .clientStream, .send ⟨1⟩ ⟨1⟩ [9], .close ⟨1⟩,
        .call ⟨2⟩ ⟨2⟩ (.send [7]), .markReady ⟨3⟩ ⟨2⟩]
    let ops' : List Operation :=
      [.openSession ⟨0⟩ .clientStream, .call ⟨2⟩ ⟨2⟩ (.send [7]), .markReady ⟨3⟩ ⟨2⟩]
    let past := (fresh 1 0).history ⟨2⟩ ops
    let past' := (fresh 1 1).history ⟨2⟩ ops'
    past.own ⟨2⟩ = past' ∧ past.delivered = past'.delivered ∧
      past'.delivered = [⟨.data, [7]⟩] := by
  intro ops ops' past past'
  have hopened : ⟨2⟩ ∈ (fresh 1 0).opened ops := by decide
  have hopened' : ⟨2⟩ ∈ (fresh 1 1).opened ops' := by decide
  have hsame : past.own ⟨2⟩ = past' := rfl
  have hall : past'.own ⟨2⟩ = past' := rfl
  have hmade : Conduct.Makes (fun _ => .send [7]) [] past' := by
    refine ⟨?_, ?_, ?_, ?_⟩
    · intro c hc
      cases hc
    · intro c hc
      cases hc
      rfl
    · intro c hc
      cases hc
    · trivial
  obtain ⟨hown, -, -, hdelivered, -⟩ :=
    own_history_eq hopened hopened' (hsame ▸ hmade) (hall ▸ hmade) (by rw [hsame, hall])
  exact ⟨hown.trans hall, hdelivered, rfl⟩

end Manager
end Switchboard
