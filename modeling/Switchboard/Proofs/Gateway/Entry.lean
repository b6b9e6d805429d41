import Switchboard.Proofs.Gateway.Reading
import Switchboard.Proofs.Server.Refusal

/-!
# Entry — the arguments of a call through the interface

A call that asks the server for something is an *entry*. It asks for one operation, which is
what its arguments come to, or its arguments are faulty: a name that is null, empty or not
well-formed, a length that is negative, a null pointer with a length. Faulty arguments are
refused before the server is looked for, and the server's absence before anything is asked of
it. A refusal leaves everything as it was, but that its text may stand in the ledger.
-/

namespace Switchboard.Gateway

variable {g : Gateway} {s : Server} {op : Operation} {sop : Server.Operation}

/-! ## Faulty arguments -/

/-- No name: null, empty, or not the bytes of any text. -/
def CText.Faulty (t : CText) : Prop := ∀ text, t = some (Utf8.encode text) → text = ""

/-- No bytes: a negative length, or a null pointer with a length. -/
def Span.Faulty (data : Span) : Prop := data.length < 0 ∨ (data.data = none ∧ 0 < data.length)

/-- Arguments were read, and refused exactly if they are faulty. -/
def Judged {α : Type} (faulty : Prop) (x : Except Status α) : Prop :=
  (faulty ∧ x = .error .invalidArgument) ∨ (¬faulty ∧ ∃ a, x = .ok a)

namespace Judged

variable {α β : Type} {p q : Prop} {x : Except Status α}

theorem pure (a : α) : Judged False (Pure.pure a : Except Status α) := .inr ⟨id, a, rfl⟩

theorem bind {f : α → Except Status β} (hx : Judged p x) (hf : ∀ a, Judged q (f a)) :
    Judged (p ∨ q) (x >>= f) := by
  rcases hx with ⟨hp, rfl⟩ | ⟨hp, a, rfl⟩
  · exact .inl ⟨.inl hp, rfl⟩
  · rcases hf a with ⟨hq, hfa⟩ | ⟨hq, b, hfa⟩
    · exact .inl ⟨.inr hq, hfa⟩
    · exact .inr ⟨fun h => h.elim hp hq, b, hfa⟩

theorem map (hx : Judged p x) (f : α → β) : Judged p (f <$> x) := by
  rcases hx with ⟨hp, rfl⟩ | ⟨hp, a, rfl⟩
  · exact .inl ⟨hp, rfl⟩
  · exact .inr ⟨hp, f a, rfl⟩

theorem congr (hx : Judged p x) (h : p ↔ q) : Judged q x := propext h ▸ hx

end Judged

theorem judged_required (t : CText) : Judged t.Faulty t.required := by
  cases t with
  | none =>
    refine .inl ⟨fun text htext => ?_, rfl⟩
    cases htext
  | some bs =>
    unfold CText.required CText.optional
    cases hdecode : Utf8.decode? bs with
    | none =>
      refine .inl ⟨fun text htext => ?_, by simp only [hdecode]⟩
      obtain rfl := Option.some.inj htext
      simp [Utf8.decode?] at hdecode
    | some text =>
      have hbytes := Utf8.encode_of_decode? hdecode
      by_cases hempty : text = ""
      · refine .inl ⟨fun other hother => ?_, by simp only [hdecode, if_pos hempty]⟩
        rw [← Utf8.encode_injective (hbytes.trans (Option.some.inj hother))]
        exact hempty
      · refine .inr ⟨fun hfaulty => hempty (hfaulty text ?_), text, ?_⟩
        · rw [hbytes]
        · simp only [hdecode, if_neg hempty]

theorem judged_bytes (data : Span) : Judged data.Faulty data.bytes := by
  unfold Span.Faulty Span.bytes
  by_cases hnegative : data.length < 0
  · rw [if_pos hnegative]
    exact .inl ⟨.inl hnegative, rfl⟩
  · rw [if_neg hnegative]
    by_cases hzero : data.length = 0
    · rw [if_pos hzero]
      exact .inr ⟨by omega, _, rfl⟩
    · rw [if_neg hzero]
      cases hdata : data.data with
      | none => exact .inl ⟨.inr ⟨rfl, by omega⟩, rfl⟩
      | some bs => exact .inr ⟨by simp [hnegative], _, rfl⟩

theorem judged_unaryArguments (method : CText) (data : Span) (metadata : Option Span) :
    Judged ((∃ span ∈ metadata, span.Faulty) ∨ method.Faulty ∨ data.Faulty)
      (unaryArguments method data metadata) := by
  have hrest : ∀ metadata : Metadata, Judged (method.Faulty ∨ data.Faulty) (do
      let method ← method.required
      let payload ← data.bytes
      return (method, payload, metadata)) := by
    intro metadata
    refine (judged_required method).bind fun method => ?_
    exact ((judged_bytes data).bind fun payload => .pure _).congr (iff_of_eq (or_false _))
  unfold unaryArguments
  cases metadata with
  | none => exact ((Judged.pure _).bind hrest).congr (by simp)
  | some span => exact (((judged_bytes span).map _).bind hrest).congr (by simp)

theorem judged_openArguments (shape : Shape) (method : CText) (data : Span) :
    Judged (method.Faulty ∨ (shape = .serverStream ∧ data.Faulty))
      (openArguments shape method data) := by
  unfold openArguments
  refine (judged_required method).bind fun method => ?_
  by_cases hshape : shape = .serverStream
  · simp only [if_pos hshape]
    exact ((judged_bytes data).bind fun request => .pure _).congr (by simp [hshape])
  · simp only [if_neg hshape]
    exact ((Judged.pure _).bind fun request => .pure _).congr (by simp [hshape])

/-- Two names, and what is made of them. -/
theorem judged_names {α : Type} (store key : CText) (f : String → String → α) :
    Judged (store.Faulty ∨ key.Faulty) (do return f (← store.required) (← key.required)) := by
  refine (judged_required store).bind fun store => ?_
  exact ((judged_required key).bind fun key => .pure _).congr (iff_of_eq (or_false _))

namespace Operation

/-- The names among the arguments. -/
def texts : Operation → List CText
  | invoke method _ _ | openStream _ _ method _ => [method]
  | cacheGet _ store key | cachePut _ store key _ _ | cacheContains _ store key => [store, key]
  | cacheDelete store key => [store, key]
  | _ => []

/-- The bytes among the arguments. Only a server stream is opened with any. -/
def spans : Operation → List Span
  | invoke _ data metadata => data :: metadata.toList
  | openStream _ shape _ data => if shape = .serverStream then [data] else []
  | send _ _ data | deliver _ data | cachePut _ _ _ data _ => [data]
  | _ => []

/-- Some argument is faulty. -/
def Faulty (op : Operation) : Prop := (∃ t ∈ op.texts, t.Faulty) ∨ ∃ data ∈ op.spans, data.Faulty

/-- What a call asks of the server, or the status of its arguments; `none` if it asks nothing
of the server. -/
def entry : Operation → Option (Except Status Server.Operation)
  | invoke method data metadata =>
    some ((fun (method, payload, metadata) => .invoke method payload metadata) <$>
      unaryArguments method data metadata)
  | openStream now shape method data =>
    some ((fun (method, request) => .openStream now shape method request) <$>
      openArguments shape method data)
  | send now id data => some (.send now id <$> data.bytes)
  | closeInput now id => some (.ok (.closeInput now id))
  | close now id => some (.ok (.close now id))
  | markReady now id => some (.ok (.markReady now id))
  | deliver id data => some ((fun payload => .reverse (.complete id payload)) <$> data.bytes)
  | cacheGet now store key => some do
    return .cacheGet now (← store.required) (← key.required)
  | cachePut now store key data ttlSeconds => some do
    let value ← data.bytes
    return .cachePut now (← store.required) (← key.required) value ttlSeconds
  | cacheContains now store key => some do
    return .cacheContains now (← store.required) (← key.required)
  | cacheDelete store key => some do
    return .cacheDelete (← store.required) (← key.required)
  | _ => none

/-- What the front end reads when a call is refused with a status. -/
def refusal (op : Operation) (status : Status) : Reading :=
  match op with
  | invoke _ _ _ =>
    .failure (if status = .notStarted then "server not started"
      else "invalid call: status " ++ toString status.code)
  | cacheGet _ _ _ => .failure ("cache get failed: status " ++ toString status.code)
  | _ => .number status.code

/-- The arguments of a call are refused exactly if one of them is faulty. -/
theorem judged_entry {x : Except Status Server.Operation} (h : op.entry = some x) :
    Judged op.Faulty x := by
  unfold Faulty
  cases op with
  | invoke method data metadata =>
    cases h
    refine ((judged_unaryArguments method data metadata).map _).congr ?_
    simpa [texts, spans] using or_comm.trans or_assoc
  | openStream now shape method data =>
    cases h
    refine ((judged_openArguments shape method data).map _).congr ?_
    by_cases hshape : shape = .serverStream <;> simp [texts, spans, hshape]
  | send now id data | deliver id data =>
    cases h
    refine ((judged_bytes data).map _).congr ?_
    simp [texts, spans]
  | closeInput | close | markReady =>
    cases h
    exact (Judged.pure _).congr (by simp [texts, spans])
  | cacheGet now store key | cacheContains now store key | cacheDelete store key =>
    cases h
    exact (judged_names store key _).congr (by simp [texts, spans])
  | cachePut now store key data ttlSeconds =>
    cases h
    refine ((judged_bytes data).bind fun value => judged_names store key _).congr ?_
    simp [texts, spans, or_comm]
  | _ => cases h

/-- What has a faulty argument is a call that would ask something of the server. -/
theorem entry_of_faulty (h : op.Faulty) : op.entry = some (.error .invalidArgument) := by
  cases hentry : op.entry with
  | none =>
    have hnone : op.texts = [] ∧ op.spans = [] := by
      cases op with
      | invoke | openStream | send | deliver => cases hentry
      | cacheGet | cachePut | cacheContains | cacheDelete => cases hentry
      | _ => exact ⟨rfl, rfl⟩
    simp [Faulty, hnone] at h
  | some asked =>
    rcases judged_entry hentry with ⟨-, rfl⟩ | ⟨hfine, -⟩
    · rfl
    · exact absurd h hfine

end Operation

/-! ## Refusals -/

/-- A call was refused with a status, and everything is as it was, but that the text of the
refusal may stand in the ledger. -/
structure Refused (op : Operation) (status : Status) (g : Gateway) (c : Crossing Response) :
    Prop where
  reading : c.answer.reading c.gateway.ledger = op.refusal status
  report : c.report = {}
  gateway : ∃ ledger, c.gateway = { g with ledger }

theorem refused_with_text (h : g.ledger.Sound) {status : Status} {text : String}
    (htext : op.refusal status = .failure text) :
    Refused op status g (plainly .replied (g.refuse text)) := by
  refine ⟨?_, rfl, (g.ledger.failure text).2, rfl⟩
  rw [htext]
  exact h.reading_failure text

theorem eq_error_of_map {α β : Type} {f : α → β} {x : Except Status α} {status : Status}
    (h : some (f <$> x) = some (.error status)) : x = .error status := by
  cases x with
  | error e =>
    cases h
    rfl
  | ok a => cases h

theorem eq_ok_of_map {α β : Type} {f : α → β} {x : Except Status α} {b : β}
    (h : some (f <$> x) = some (.ok b)) : ∃ a, x = .ok a ∧ b = f a := by
  cases x with
  | error e => cases h
  | ok a =>
    cases h
    exact ⟨a, rfl, rfl⟩

section Names

variable {α : Type} {store key : CText} {f : String → String → α}

theorem cacheArguments_of_error {status : Status}
    (h : (do return f (← store.required) (← key.required)) = Except.error status) (g : Gateway) :
    g.cacheArguments store key = .error status := by
  unfold cacheArguments
  cases hstore : store.required with
  | error e =>
    rw [hstore] at h
    cases h
    rfl
  | ok store =>
    cases hkey : key.required with
    | error e =>
      rw [hstore, hkey] at h
      cases h
      rfl
    | ok key =>
      rw [hstore, hkey] at h
      cases h

theorem cacheArguments_of_ok {a : α}
    (h : (do return f (← store.required) (← key.required)) = (.ok a : Except Status α)) :
    ∃ storeName keyName, a = f storeName keyName ∧
      ∀ g : Gateway, g.cacheArguments store key =
        g.current.map fun server => (storeName, keyName, server) := by
  cases hstore : store.required with
  | error e =>
    rw [hstore] at h
    cases h
  | ok storeName =>
    cases hkey : key.required with
    | error e =>
      rw [hstore, hkey] at h
      cases h
    | ok keyName =>
      rw [hstore, hkey] at h
      cases h
      refine ⟨storeName, keyName, rfl, fun g => ?_⟩
      unfold cacheArguments
      rw [hstore, hkey]
      cases g.current <;> rfl

/-- What is asked of the server when a value is put. -/
theorem eq_ok_of_put {now : Instant} {data : Span} {ttlSeconds : Int}
    (h : (Operation.cachePut now store key data ttlSeconds).entry = some (.ok sop)) :
    ∃ value storeName keyName, data.bytes = .ok value ∧
      sop = .cachePut now storeName keyName value ttlSeconds ∧
      ∀ g : Gateway, g.cacheArguments store key =
        g.current.map fun server => (storeName, keyName, server) := by
  have h := Option.some.inj h
  cases hbytes : data.bytes with
  | error e =>
    rw [hbytes] at h
    cases h
  | ok value =>
    rw [hbytes] at h
    obtain ⟨storeName, keyName, hsop, hargs⟩ := cacheArguments_of_ok h
    exact ⟨value, storeName, keyName, rfl, hsop, hargs⟩

end Names

/-- A refusal without a text leaves even the ledger as it was. -/
theorem refused_plainly {status : Status} {answer : Response}
    (hreading : answer.reading g.ledger = op.refusal status) :
    Refused op status g { answer, gateway := g } := ⟨hreading, rfl, g.ledger, rfl⟩

/-- What is refused for its arguments is refused before the server is looked for. -/
theorem refused_of_error (hl : g.ledger.Sound) {status : Status}
    (h : op.entry = some (.error status)) : Refused op status g (g.step op) := by
  have hstatus : status = .invalidArgument := by
    rcases op.judged_entry h with ⟨-, heq⟩ | ⟨-, sop, heq⟩
    · cases heq
      rfl
    · cases heq
  cases op with
  | invoke method data metadata =>
    have hargs := eq_error_of_map h
    simp only [step, invoke, hargs]
    refine refused_with_text hl ?_
    rw [hstatus]
    rfl
  | openStream now shape method data =>
    have hargs := eq_error_of_map h
    simp only [step, openStream, hargs]
    exact refused_plainly rfl
  | send now id data =>
    have hargs := eq_error_of_map h
    simp only [step, send, hargs]
    exact refused_plainly rfl
  | deliver id data =>
    have hargs := eq_error_of_map h
    simp only [step, deliver, hargs]
    exact refused_plainly rfl
  | cacheGet now store key =>
    have hargs := cacheArguments_of_error (Option.some.inj h) g
    simp only [step, cacheGet, hargs]
    exact refused_with_text hl rfl
  | cachePut now store key data ttlSeconds =>
    have h := Option.some.inj h
    simp only [step, cachePut]
    cases hbytes : data.bytes with
    | error e =>
      rw [hbytes] at h
      cases h
      exact refused_plainly rfl
    | ok value =>
      rw [hbytes] at h
      have hargs := cacheArguments_of_error h g
      rw [hargs]
      exact refused_plainly rfl
  | cacheContains now store key =>
    have hargs := cacheArguments_of_error (Option.some.inj h) g
    simp only [step, cacheContains, hargs]
    exact refused_plainly rfl
  | cacheDelete store key =>
    have hargs := cacheArguments_of_error (Option.some.inj h) g
    simp only [step, cacheDelete, hargs]
    exact refused_plainly rfl
  | _ => cases h

/-- Without a server there is nobody to ask. -/
theorem refused_of_idle (hl : g.ledger.Sound) (hs : g.server = none)
    (h : op.entry = some (.ok sop)) : Refused op .notStarted g (g.step op) := by
  have hcurrent : g.current = .error .notStarted := by rw [current, hs]
  cases op with
  | invoke method data metadata =>
    obtain ⟨args, hargs, -⟩ := eq_ok_of_map h
    simp only [step, invoke, hargs, hs]
    exact refused_with_text hl rfl
  | openStream now shape method data =>
    obtain ⟨args, hargs, -⟩ := eq_ok_of_map h
    simp only [step, openStream, hargs, hcurrent]
    exact refused_plainly rfl
  | send now id data =>
    obtain ⟨chunk, hargs, -⟩ := eq_ok_of_map h
    simp only [step, send, hargs, hcurrent]
    exact refused_plainly rfl
  | closeInput now id | close now id | markReady now id =>
    simp only [step, closeInput, close, markReady, onServer, hcurrent]
    exact refused_plainly rfl
  | deliver id data =>
    obtain ⟨payload, hargs, -⟩ := eq_ok_of_map h
    simp only [step, deliver, hargs, hcurrent]
    exact refused_plainly rfl
  | cacheGet now store key =>
    obtain ⟨storeName, keyName, -, hargs⟩ := cacheArguments_of_ok (Option.some.inj h)
    simp only [step, cacheGet, hargs, hcurrent]
    exact refused_with_text hl rfl
  | cachePut now store key data ttlSeconds =>
    obtain ⟨value, storeName, keyName, hbytes, -, hargs⟩ := eq_ok_of_put h
    simp only [step, cachePut, hbytes, hargs, hcurrent]
    exact refused_plainly rfl
  | cacheContains now store key =>
    obtain ⟨storeName, keyName, -, hargs⟩ := cacheArguments_of_ok (Option.some.inj h)
    simp only [step, cacheContains, hargs, hcurrent]
    exact refused_plainly rfl
  | cacheDelete store key =>
    obtain ⟨storeName, keyName, -, hargs⟩ := cacheArguments_of_ok (Option.some.inj h)
    simp only [step, cacheDelete, hargs, hcurrent]
    exact refused_plainly rfl
  | _ => cases h

end Switchboard.Gateway
