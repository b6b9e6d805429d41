import Switchboard.Proofs.Dispatch.History
import Switchboard.Proofs.Gateway.Slots

/-!
# Outcome — a unary call, from its arguments to its envelope

A unary call ends with a payload or with an error. `Tells` says what the envelope of each is,
read from the ledger; no envelope tells of two outcomes. What is passed in comes as pointers and
lengths, and `Holds` says which bytes these are. Between the two, the router finds the handler
and the server contains its breaks, so that the outcome told is that of the handler that was
registered last, run on just these bytes.
-/

namespace Switchboard

namespace DispatchError

/-- The kind of error that a message tells of. Where two kinds begin alike, a later letter
tells them apart. -/
def kindOf (text : List Char) : Nat :=
  if text.head? = some 'm' then if text.getLast? = some 'd' then 0 else 1
  else if text.head? = some 'h' then if text[8]? = some 'f' then 2 else 3
  else 4

theorem kindOf_message (e : DispatchError) : kindOf e.message.toList = e.ctorIdx := by
  cases e with
  | methodNotFound method =>
    change kindOf ("method '" ++ method ++ "' not found").toList = 0
    rw [String.toList_append, String.toList_append, kindOf, List.getLast?_append]
    simp
  | wrongShape method =>
    change kindOf ("method '" ++ method ++ "' does not support this call shape").toList = 1
    rw [String.toList_append, String.toList_append, kindOf, List.getLast?_append]
    simp
  | failed reason =>
    change kindOf ("handler failed: " ++ reason).toList = 2
    rw [String.toList_append]
    simp [kindOf]
  | panicked text =>
    change kindOf ("handler panicked: " ++ text).toList = 3
    rw [String.toList_append]
    simp [kindOf]
  | unavailable => decide

/-- Two errors never have the same text. -/
theorem message_injective : Function.Injective message := by
  intro e e' h
  have hkind : e.ctorIdx = e'.ctorIdx := by rw [← kindOf_message, ← kindOf_message, h]
  cases e <;> cases e' <;> try cases hkind
  case methodNotFound.methodNotFound | wrongShape.wrongShape =>
    rw [(String.append_right_inj _).mp ((String.append_left_inj _).mp h)]
  case failed.failed | panicked.panicked => rw [(String.append_right_inj _).mp h]
  case unavailable.unavailable => rfl

theorem message_ne_empty (e : DispatchError) : e.message ≠ "" := by
  intro hempty
  have hkind := kindOf_message e
  rw [hempty] at hkind
  cases e with
  | unavailable => exact absurd hempty (by decide)
  | _ => cases hkind

theorem encode_message_ne_nil (e : DispatchError) : Utf8.encode e.message ≠ [] := fun hnil =>
  e.message_ne_empty (Utf8.encode_injective hnil)

theorem neg_length_lt_zero (e : DispatchError) : -((Utf8.encode e.message).length : Int) < 0 := by
  have hpositive := List.length_pos_iff.mpr e.encode_message_ne_nil
  omega

end DispatchError

namespace Gateway

/-! ## What an envelope tells -/

/-- What the envelope of each outcome is: of a payload, a block with its bytes and their number;
of an empty success, null and zero; of an error, a block with its text and the number of the
text's bytes, below zero. -/
def Envelope.Tells (l : Ledger) (e : Envelope) : Except DispatchError Bytes → Prop
  | .ok [] => e = { data := .null, length := 0 }
  | .ok (b :: bs) => e.length = (b :: bs).length ∧ l.read? e.data = some (b :: bs)
  | .error error =>
    e.length = -(Utf8.encode error.message).length ∧ l.diagnostic e = some error.message

variable {l l' : Ledger} {e : Envelope} {result result' : Except DispatchError Bytes}

theorem Envelope.Tells.length {bs : Bytes} (h : e.Tells l (.ok bs)) : e.length = bs.length := by
  cases bs with
  | nil => exact congrArg Envelope.length h
  | cons b bs => exact h.1

theorem Envelope.Tells.length_neg {error : DispatchError} (h : e.Tells l (.error error)) :
    e.length < 0 := by
  rw [h.1]
  exact error.neg_length_lt_zero

/-- The sign of the length tells a success from an error, wherever the envelope is read. -/
theorem Envelope.Tells.not_error {bs : Bytes} {error : DispatchError} (h : e.Tells l (.ok bs)) :
    ¬ e.Tells l' (.error error) := by
  intro herror
  have hnegative := herror.length_neg
  rw [h.length] at hnegative
  omega

/-- An envelope tells of one outcome only. -/
theorem Envelope.Tells.unique (h : e.Tells l result) (h' : e.Tells l result') :
    result = result' := by
  cases result with
  | error error =>
    cases result' with
    | error error' =>
      have htext := Option.some.inj (h.2.symm.trans h'.2)
      rw [DispatchError.message_injective htext]
    | ok bs => exact absurd h h'.not_error
  | ok bs =>
    cases result' with
    | error error => exact absurd h' h.not_error
    | ok bs' =>
      have hlength : bs.length = bs'.length := Int.ofNat.inj (h.length.symm.trans h'.length)
      cases bs with
      | nil => rw [List.length_eq_zero_iff.mp hlength.symm]
      | cons b bs =>
        cases bs' with
        | nil => cases hlength
        | cons b' bs' => rw [Option.some.inj (h.2.symm.trans h'.2)]

/-- The envelope of a reply tells of the outcome that the reply was made of. -/
theorem tells_reply (hl : l.Sound) (result : Except DispatchError Bytes) :
    (l.reply (.ofResult result)).1.Tells (l.reply (.ofResult result)).2 result := by
  cases result with
  | ok bs =>
    cases bs with
    | nil => rfl
    | cons b bs => exact ⟨rfl, hl.read?_place (List.prefix_refl _)⟩
  | error error =>
    have hfailure : l.failure error.message =
        ({ data := (l.place (Utf8.encode error.message)).1,
           length := -(Utf8.encode error.message).length },
          (l.place (Utf8.encode error.message)).2) :=
      if_neg error.encode_message_ne_nil
    rw [Reply.ofResult, Ledger.reply, hfailure]
    refine ⟨rfl, ?_⟩
    rw [Ledger.diagnostic, Envelope.isFailure, if_pos (decide_eq_true error.neg_length_lt_zero),
      hl.read?_place (List.prefix_refl _), Option.map_some, Utf8.decode_encode]

/-! ## Arguments -/

/-- The span is of these bytes: its length is theirs, and it points at them, unless there are
none. -/
def Span.Holds (span : Span) (bs : Bytes) : Prop :=
  span.length = bs.length ∧ (bs ≠ [] → ∃ behind, span.data = some (bs ++ behind))

theorem Span.Holds.bytes {span : Span} {bs : Bytes} (h : span.Holds bs) : span.bytes = .ok bs := by
  obtain ⟨hlength, hdata⟩ := h
  unfold Span.bytes
  rw [if_neg (by omega)]
  by_cases hempty : bs = []
  · subst hempty
    exact if_pos hlength
  · obtain ⟨behind, hbehind⟩ := hdata hempty
    have hpositive := List.length_pos_iff.mpr hempty
    rw [if_neg (by omega), hbehind, hlength]
    simp

/-- A text with a NUL behind it is read back, whatever comes after. -/
theorem required_ofBytes {text : String} (hnamed : text ≠ "") (hnul : '\x00' ∉ text.toList)
    (behind : Bytes) : (CText.ofBytes (Utf8.encode text ++ 0 :: behind)).required = .ok text := by
  have hbytes : ∀ b ∈ Utf8.encode text, decide (b ≠ 0) = true := by
    intro b hb
    refine decide_eq_true ?_
    rintro rfl
    exact hnul ((Utf8.mem_encode_iff (by decide) text).mp hb)
  have htake : (Utf8.encode text ++ 0 :: behind).takeWhile (· ≠ 0) = Utf8.encode text := by
    rw [List.takeWhile_append_of_pos hbytes]
    simp
  rw [CText.ofBytes, htake, CText.required, CText.optional, Utf8.decode?, Utf8.decode_encode,
    if_pos rfl]
  simp only [if_neg hnamed]

/-! ## The call -/

variable {g : Gateway} {s : Server} {method : String} {payload raw behind : Bytes}
  {data metadata : Span}

theorem unaryArguments_of_holds (hnamed : method ≠ "") (hnul : '\x00' ∉ method.toList)
    (hdata : data.Holds payload) (hmetadata : metadata.Holds raw) :
    unaryArguments (CText.ofBytes (Utf8.encode method ++ 0 :: behind)) data (some metadata) =
      .ok (method, payload, .parse raw) := by
  rw [unaryArguments, hmetadata.bytes, required_ofBytes hnamed hnul, hdata.bytes]
  rfl

/-- The envelope tells of the outcome, and nothing is changed but the ledger. -/
structure Answered (g : Gateway) (result : Except DispatchError Bytes) (r : Envelope × Gateway) :
    Prop where
  told : r.1.Tells r.2.ledger result
  rest : ∃ ledger, r.2 = { g with ledger }

theorem answered_invoke {text : CText} {span : Option Span} {m : Metadata}
    (hl : g.ledger.Sound) (hs : g.server = some s) (hstopped : s.stopped = false)
    (harguments : unaryArguments text data span = .ok (method, payload, m))
    (hcontained : Server.contain Reply.ofResult Reply.failed
      (s.dispatcher.invoke method payload m) = .done (.ofResult result)) :
    Answered g result (g.invoke text data span) := by
  have hreply : s.invoke method payload m = .done (.ofResult result) := by
    rw [Server.invoke, hstopped, hcontained]
    rfl
  simp only [invoke, harguments, hs, hreply]
  refine ⟨tells_reply hl result, (g.ledger.reply (.ofResult result)).2, ?_⟩
  rw [hs]

/-- While a server runs, it is the registered dispatcher that it asks. -/
theorem server_of_running {hangUps : List (SessionId × Nat)} {past : List Operation}
    {d : Dispatcher} (hrunning : (({ hangUps } : Gateway).run past).running = true)
    (hd : (({ hangUps } : Gateway).run past).dispatcher = some d) :
    ∃ s, (({ hangUps } : Gateway).run past).server = some s ∧ s.stopped = false ∧
      s.dispatcher = d := by
  have hg₀ : ({ hangUps } : Gateway).Orderly := orderly_idle hangUps
  have hseated₀ : ({ hangUps } : Gateway).Seated := fun s hs => by cases hs
  obtain ⟨s, hs⟩ := Option.isSome_iff_exists.mp hrunning
  have hseated := hseated₀.run hg₀ (sound_ledger_idle hangUps) past s hs
  exact ⟨s, hs, ((hg₀.run past).1.running s hs).2, Option.some.inj (hseated.symm.trans hd)⟩

open Router Registrations

/-- **The outcome of a unary call is told by its envelope.** A server runs with a router, and a
method is called with a payload and with metadata.

If a unary handler was registered last under the name, it is run on just these bytes and what is
read from them, and what it returns is told: bytes, nothing, or the text of its error. If it
breaks off and the break can be contained, the text of the break is told. A name that was never
registered, and one that a stream was registered under last, is refused by the router itself,
and the text of that is told.

No envelope can be taken for a success and for an error, nor for two outcomes of either kind,
and a reply is turned back into what it was made of. -/
theorem unary_outcome_told (hangUps : List (SessionId × Nat)) (past : List Operation)
    (history : Registrations)
    (hrunning : (({ hangUps } : Gateway).run past).running = true)
    (hrouter : (({ hangUps } : Gateway).run past).dispatcher =
      some (registered history).dispatcher) :
    let g := ({ hangUps } : Gateway).run past
    (∀ method payload raw behind data metadata, method ≠ "" → '\x00' ∉ method.toList →
      Span.Holds data payload → Span.Holds metadata raw →
      let r := g.invoke (CText.ofBytes (Utf8.encode method ++ 0 :: behind)) data (some metadata)
      (∀ answer, Last history method (.unary answer) →
        (∀ result, answer payload (.parse raw) = .returned result → Answered g result r) ∧
        ∀ panic, answer payload (.parse raw) = .panicked panic → panic.rebound? = none →
          Answered g (.error (.panicked panic.describe)) r) ∧
      (method ∉ names history →
        Refuses history method (.methodNotFound method) none ∧
          Answered g (.error (.methodNotFound method)) r) ∧
      ∀ route, Last history method route → route.shape? ≠ none →
        Refuses history method (.wrongShape method) none ∧
          Answered g (.error (.wrongShape method)) r) ∧
    (∀ (e : Envelope) l l' bs error, e.Tells l (.ok bs) → ¬ e.Tells l' (.error error)) ∧
    (∀ (e : Envelope) l result result', e.Tells l result → e.Tells l result' →
      result = result') ∧
    ∀ result, (Reply.ofResult result).result = result := by
  intro g
  obtain ⟨s, hs, hstopped, hdispatcher⟩ := server_of_running hrunning hrouter
  have hl : g.ledger.Sound := sound_ledger_run (sound_ledger_idle hangUps) past
  refine ⟨?_, fun _ _ _ _ _ htold => htold.not_error, fun _ _ _ _ htold => htold.unique,
    Reply.result_ofResult⟩
  intro method payload raw behind data metadata hnamed hnul hdata hmetadata r
  -- What the router answers is told, once the server has contained it.
  have hanswered : ∀ attempt result,
      (registered history).invoke method payload (.parse raw) = attempt →
      Server.contain Reply.ofResult Reply.failed attempt = .done (.ofResult result) →
      Answered g result r := by
    rintro attempt result rfl hcontained
    refine answered_invoke hl hs hstopped (unaryArguments_of_holds hnamed hnul hdata hmetadata) ?_
    rw [hdispatcher]
    exact hcontained
  refine ⟨fun answer hlast => ⟨fun result hresult => ?_, fun panic hpanic hcontained => ?_⟩,
    fun hunknown => ⟨refuses_of_not_mem hunknown none, ?_⟩,
    fun route hlast hshape => ⟨refuses_of_shape hlast hshape, ?_⟩⟩
  · exact hanswered _ _ ((invoke_of_last hlast).trans hresult) rfl
  · refine hanswered _ _ ((invoke_of_last hlast).trans hpanic) ?_
    rw [Server.contain, hcontained]
    rfl
  · exact hanswered _ _ (invoke_of_not_mem hunknown) rfl
  · exact hanswered _ _ (invoke_of_shape hlast hshape) rfl

/-- An echo of nothing is an empty success, a break is an error, and a method of streams is
refused. -/
theorem unary_outcome_told_thrice :
    let history : Registrations := [("echo", .bidi {}),
      ("echo", .unary fun payload _ => .returned (.ok payload)),
      ("break", .unary fun _ _ => .panicked (.message "out of range")), ("watch", .bidi {})]
    let past : List Operation := [.register (registered history).dispatcher, .start (some {})]
    let g := ({} : Gateway).run past
    let call (method : String) (data : Span) :=
      g.invoke (CText.ofBytes (Utf8.encode method ++ [0])) data (some {})
    (call "echo" {}).1 = { data := .null, length := 0 } ∧
      Answered g (.ok [7, 8]) (call "echo" { data := some [7, 8, 9], length := 2 }) ∧
      Answered g (.error (.panicked "out of range")) (call "break" {}) ∧
      Answered g (.error (.wrongShape "watch")) (call "watch" {}) ∧
      Answered g (.error (.methodNotFound "absent")) (call "absent" {}) := by
  intro history past g call
  obtain ⟨hcall, -⟩ := unary_outcome_told [] past history rfl rfl
  have hnone : Span.Holds {} [] := ⟨rfl, nofun⟩
  have htwo : Span.Holds { data := some [7, 8, 9], length := 2 } [7, 8] :=
    ⟨rfl, fun _ => ⟨[9], rfl⟩⟩
  obtain ⟨hecho, -, -⟩ := hcall "echo" [] [] [] {} {} (by decide) (by decide) hnone hnone
  obtain ⟨hecho', -, -⟩ := hcall "echo" [7, 8] [] [] _ {} (by decide) (by decide) htwo hnone
  obtain ⟨hbreak, -, -⟩ := hcall "break" [] [] [] {} {} (by decide) (by decide) hnone hnone
  obtain ⟨-, -, hwatch⟩ := hcall "watch" [] [] [] {} {} (by decide) (by decide) hnone hnone
  obtain ⟨-, habsent, -⟩ := hcall "absent" [] [] [] {} {} (by decide) (by decide) hnone hnone
  have hlast : ∀ method route, (registered history).find? method = some route →
      Last history method route := fun method route => (find?_registered history method route).mp
  exact ⟨((hecho _ (hlast _ _ rfl)).1 _ rfl).told, (hecho' _ (hlast _ _ rfl)).1 _ rfl,
    (hbreak _ (hlast _ _ rfl)).2 _ rfl rfl, (hwatch _ (hlast _ _ rfl) nofun).2,
    (habsent (by decide)).2⟩

end Gateway
end Switchboard
