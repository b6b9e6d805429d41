import Switchboard.Proofs.Gateway.Run
import Switchboard.Proofs.Text.Utf8

/-!
# Reading — what the front end makes of what it is handed

Everything with bytes in it comes as an envelope, and the bytes stand in the ledger until they
are given back. New blocks are placed behind those that stand there, under numbers that were
not used before; so a block can be read from when it is placed, whatever is placed after it.
`Reading` is an answer as the front end reads it, and `Sight` a delivery as the stream
callback sees it: neither has a pointer in it.
-/

namespace Switchboard.Gateway

/-! ## The ledger -/

/-- The bytes of an envelope, read from a ledger. -/
def Envelope.payload (l : Ledger) (e : Envelope) : Bytes :=
  ((l.read? e.data).getD []).take e.length.natAbs

namespace Ledger

variable {l l' : Ledger}

/-- Every block has a number that was given out. -/
def Sound (l : Ledger) : Prop := ∀ b ∈ l.blocks, b.1 < l.next

theorem sound_empty : ({} : Ledger).Sound := fun _ hb => absurd hb List.not_mem_nil

theorem Sound.place (h : l.Sound) (bs : Bytes) : (l.place bs).2.Sound := by
  intro b hb
  rcases List.mem_append.mp hb with hold | hnew
  · exact Nat.lt_succ_of_lt (h b hold)
  · rw [List.mem_singleton.mp hnew]
    exact Nat.lt_succ_self _

theorem Sound.success (h : l.Sound) (bs : Bytes) : (l.success bs).2.Sound := by
  unfold Ledger.success
  split
  · exact h
  · exact h.place bs

theorem Sound.failure (h : l.Sound) (text : String) : (l.failure text).2.Sound := by
  unfold Ledger.failure
  dsimp only
  split
  · exact h
  · exact h.place _

theorem Sound.reply (h : l.Sound) (r : Reply) : (l.reply r).2.Sound := by
  cases r with
  | payload bs => exact h.success bs
  | empty => exact h
  | failed e => exact h.failure e.message

theorem Sound.release (h : l.Sound) (p : Pointer) : (l.release p).Sound := by
  cases p with
  | null | foreign => exact h
  | block serial => exact fun b hb => h b (List.mem_filter.mp hb).1

theorem prefix_success (bs : Bytes) (l : Ledger) : l.blocks <+: (l.success bs).2.blocks := by
  unfold success
  split
  · exact List.prefix_refl _
  · exact List.prefix_append _ _

/-- A block that was placed can be read as long as it stands in the ledger. -/
theorem Sound.read?_place (h : l.Sound) {bs : Bytes}
    (hlater : (l.place bs).2.blocks <+: l'.blocks) : l'.read? (l.place bs).1 = some bs := by
  obtain ⟨more, hmore⟩ := hlater
  have hold : l.blocks.find? (·.1 = l.next) = none := by
    refine List.find?_eq_none.mpr fun b hb => ?_
    have hlt := h b hb
    simp only [decide_eq_true_eq]
    omega
  have hfind : l'.blocks.find? (·.1 = l.next) = some (l.next, bs) := by
    rw [← hmore, List.find?_append, Ledger.place, List.find?_append, hold]
    simp
  show (l'.blocks.find? (·.1 = l.next)).map (·.2) = _
  rw [hfind]
  rfl

theorem Sound.payload_success (h : l.Sound) {bs : Bytes}
    (hlater : (l.success bs).2.blocks <+: l'.blocks) : (l.success bs).1.payload l' = bs := by
  unfold Ledger.success at hlater ⊢
  split
  · next hempty => exact hempty.symm
  · next hbytes =>
    rw [if_neg hbytes] at hlater
    unfold Envelope.payload
    dsimp only
    rw [h.read?_place hlater]
    exact List.take_length

theorem Sound.payload_failure (h : l.Sound) (text : String) :
    (l.failure text).1.payload (l.failure text).2 = Utf8.encode text ∧
      (l.failure text).1.isFailure = true := by
  unfold Ledger.failure
  dsimp only
  split
  · next hempty =>
    rw [hempty]
    exact ⟨rfl, rfl⟩
  · next hbytes =>
    have hpositive : 0 < (Utf8.encode text).length := List.length_pos_iff.mpr hbytes
    refine ⟨?_, decide_eq_true ?_⟩
    · unfold Envelope.payload
      dsimp only
      rw [h.read?_place (List.prefix_refl _), Int.natAbs_neg]
      exact List.take_length
    · dsimp only
      omega

end Ledger

/-! ## Answers -/

/-- An answer as the front end reads it. -/
inductive Reading where
  | number (value : Int)
  | payload (bytes : Bytes)
  | failure (text : String)
  -- The call goes on, or what is answered is no number and no bytes.
  | other
  deriving DecidableEq

/-- The answer says that what was asked for was not done. -/
def Reading.refuses : Reading → Bool
  | number value => value < 0
  | failure _ => true
  | payload _ | other => false

/-- What the front end reads off an envelope. -/
def Envelope.reading (l : Ledger) (e : Envelope) : Reading :=
  if e.isFailure then .failure (Utf8.decode (e.payload l)) else .payload (e.payload l)

/-- What the front end reads off an answer. -/
def Response.reading (l : Ledger) : Response → Reading
  | .status s | .sent (.status s) => .number s.code
  | .opened number | .found number => .number number
  | .replied envelope => envelope.reading l
  | _ => .other

theorem Ledger.Sound.reading_success {l : Ledger} (h : l.Sound) (bs : Bytes) :
    (l.success bs).1.reading (l.success bs).2 = .payload bs := by
  have hsuccess : (l.success bs).1.isFailure = false := by
    unfold Ledger.success
    split
    · rfl
    · exact decide_eq_false (Int.not_lt.mpr (Int.natCast_nonneg _))
  rw [Envelope.reading, hsuccess, h.payload_success (List.prefix_refl _)]
  rfl

theorem Ledger.Sound.reading_failure {l : Ledger} (h : l.Sound) (text : String) :
    (l.failure text).1.reading (l.failure text).2 = .failure text := by
  obtain ⟨hpayload, hfailure⟩ := h.payload_failure text
  rw [Envelope.reading, hfailure, hpayload, Utf8.decode_encode]
  rfl

/-! ## Deliveries -/

/-- A delivery as the stream callback sees it. -/
structure Sight where
  callback : StreamCallback
  session : Int
  kind : Nat
  payload : Bytes
  deriving DecidableEq

/-- What the stream callback sees of one delivery. -/
def Handed.sight (l : Ledger) (h : Handed) : Sight :=
  { callback := h.callback, session := h.session.number, kind := h.kind.code
    payload := h.envelope.payload l }

/-- A delivery of the server as a callback is to see it. -/
def Sight.ofDelivery (callback : StreamCallback) (d : Delivery) : Sight :=
  { callback, session := d.session.number, kind := d.frame.kind.code
    payload := d.frame.payload }

variable {g : Gateway}

theorem sound_ledger_handOver (h : g.ledger.Sound) (ds : List Delivery) :
    (g.handOver ds).2.ledger.Sound := by
  induction ds generalizing g with
  | nil => exact h
  | cons d ds ih =>
    unfold handOver
    split
    · exact h
    · exact ih (g := { g with ledger := _ }) (h.success d.frame.payload)

/-- What is handed over is what was delivered, in the same order. -/
theorem sights_handOver (h : g.ledger.Sound) {callback : StreamCallback}
    (hcallback : g.streamCallback = some callback) (ds : List Delivery) :
    g.ledger.blocks <+: (g.handOver ds).2.ledger.blocks ∧
      (g.handOver ds).1.map (·.sight (g.handOver ds).2.ledger) =
        ds.map (.ofDelivery callback) := by
  induction ds generalizing g with
  | nil => exact ⟨List.prefix_refl _, rfl⟩
  | cons d ds ih =>
    obtain ⟨hstands, hsights⟩ := ih (g := { g with ledger := (g.ledger.success d.frame.payload).2 })
      (h.success d.frame.payload) hcallback
    unfold handOver
    split
    · next hnone =>
      rw [hcallback] at hnone
      cases hnone
    next heard hheard =>
    obtain rfl : heard = callback := Option.some.inj (hheard.symm.trans hcallback)
    refine ⟨(Ledger.prefix_success _ _).trans hstands, ?_⟩
    rw [List.map_cons, hsights, List.map_cons]
    congr 1
    rw [Handed.sight, h.payload_success hstands]
    rfl

/-! ## Every operation -/

theorem sound_ledger_after {α : Type} (h : g.ledger.Sound) (o : Outcome Server α) :
    (g.after o).gateway.ledger.Sound :=
  sound_ledger_handOver (g := { g with server := some o.state }) h o.activity.deliveries

theorem sound_ledger_handCalls (h : g.ledger.Sound) (rs : List Reverse.Request) :
    (g.handCalls rs).2.ledger.Sound := by
  induction rs generalizing g with
  | nil => exact h
  | cons r rs ih => exact ih (g := { g with ledger := _ }) (h.success r.payload)

theorem sound_ledger_refuse (h : g.ledger.Sound) (text : String) :
    (g.refuse text).2.ledger.Sound := h.failure text

theorem sound_ledger_step (h : g.ledger.Sound) (op : Operation) :
    (g.step op).gateway.ledger.Sound := by
  cases op with
  | register dispatcher =>
    simp only [step, register]
    split <;> exact h
  | takeDispatcher =>
    simp only [step, takeDispatcher]
    split <;> exact h
  | registerStreamCallback callback =>
    simp only [step, registerStreamCallback]
    split <;> exact h
  | registerReverseCallback callback =>
    simp only [step, registerReverseCallback]
    split <;> exact h
  | start settings =>
    simp only [step, start]
    repeat' split
    all_goals exact h
  | stop now =>
    simp only [step, stop]
    split
    · exact h
    · refine sound_ledger_handOver ?_ _
      exact h
  | invoke method data metadata =>
    simp only [step, invoke]
    split
    · exact sound_ledger_refuse h _
    · split
      · exact sound_ledger_refuse h "server not started"
      · split
        · next text _ =>
          exact sound_ledger_refuse (g := g.keepPanic text) h "panic at ffi boundary"
        · exact h.reply _
  | openStream now shape method data =>
    simp only [step, openStream]
    split
    · exact h
    · exact h
    · split
      · exact h
      · exact sound_ledger_after h _
  | send now id data =>
    simp only [step, send]
    split
    · exact h
    · exact h
    · exact sound_ledger_after h _
  | closeInput now id | close now id | markReady now id =>
    simp only [step, closeInput, close, markReady, onServer]
    split
    · exact h
    · exact sound_ledger_after h _
  | reap now =>
    simp only [step, reap]
    split
    · exact h
    · exact sound_ledger_after h _
  | instruct now id i =>
    simp only [step, instruct]
    split
    · exact sound_ledger_after h _
    · refine sound_ledger_handOver ?_ _
      exact h
  | reverseCall method payload =>
    simp only [step, reverseCall]
    split
    · exact h
    · split
      · refine sound_ledger_handCalls ?_ _
        exact h
      · split
        · refine sound_ledger_handCalls ?_ _
          exact h
        · refine sound_ledger_handCalls ?_ _
          exact h
  | deliver id data =>
    simp only [step, deliver]
    repeat' split
    all_goals exact h
  | cacheGet now store key =>
    simp only [step, cacheGet]
    split
    · exact sound_ledger_refuse h _
    · split
      · exact sound_ledger_refuse h _
      · exact h.success _
  | cachePut now store key data ttlSeconds =>
    simp only [step, cachePut]
    split <;> exact h
  | cacheDelete store key =>
    simp only [step, cacheDelete]
    split <;> exact h
  | cacheContains | lastPanicMessage => exact h
  | free p => exact h.release p

theorem sound_ledger_idle (hangUps : List (SessionId × Nat)) :
    ({ hangUps } : Gateway).ledger.Sound := Ledger.sound_empty

theorem sound_ledger_run (h : g.ledger.Sound) (ops : List Operation) :
    (g.run ops).ledger.Sound := by
  induction ops generalizing g with
  | nil => exact h
  | cons op ops ih => exact ih (sound_ledger_step h op)

end Switchboard.Gateway
