import Switchboard.Proofs.Stream.Output

/-!
# Grammar — the order in which kinds are delivered

A session delivers a header at most, then data, then its end: an end that a trailer may
come before, or an error. `IsWord` is the grammar of a session that was delivered in full.
That deliveries keep to it is read off the books of the session: what was said keeps to
it, and a first part of what was said, with an error after it or not, keeps to it too.
-/

namespace Switchboard

/-! ## Words -/

/-- The kinds of a session that was delivered in full:
`Header? Data* (Trailer? End | Error)`. -/
def IsWord (kinds : List FrameKind) : Prop :=
  ∃ head number ending, kinds = head ++ List.replicate number .data ++ ending ∧
    (head = [] ∨ head = [.header]) ∧
    (ending = [.finish] ∨ ending = [.trailer, .finish] ∨ ending = [.error])

namespace IsWord

variable {kinds word : List FrameKind}

/-- A word has one terminal kind, and it comes last. -/
theorem exists_last (h : IsWord word) :
    ∃ front last, word = front ++ [last] ∧ last.isTerminal = true ∧
      ∀ k ∈ front, k.isTerminal = false := by
  obtain ⟨head, number, ending, rfl, hhead, hending⟩ := h
  have hplain : ∀ k ∈ head ++ List.replicate number .data, k.isTerminal = false := by
    intro k hk
    rcases List.mem_append.mp hk with hk | hk
    · rcases hhead with rfl | rfl
      · cases hk
      · obtain rfl := List.mem_singleton.mp hk
        rfl
    · obtain rfl := List.eq_of_mem_replicate hk
      rfl
  rcases hending with rfl | rfl | rfl
  · exact ⟨_, .finish, rfl, rfl, hplain⟩
  · refine ⟨head ++ List.replicate number .data ++ [.trailer], .finish, ?_, rfl, ?_⟩
    · simp
    · intro k hk
      rcases List.mem_append.mp hk with hk | hk
      · exact hplain k hk
      · obtain rfl := List.mem_singleton.mp hk
        rfl
  · exact ⟨_, .error, rfl, rfl, hplain⟩

theorem countP_terminal (h : IsWord word) : word.countP (·.isTerminal) = 1 := by
  obtain ⟨front, last, rfl, hlast, hfront⟩ := h.exists_last
  rw [List.countP_append, List.countP_eq_zero.mpr fun k hk => by simp [hfront k hk]]
  simp [hlast]

theorem eq_nil_of_terminal (h : IsWord word) {front rest : List FrameKind} {k : FrameKind}
    (hbegin : front ++ k :: rest <+: word) (hk : k.isTerminal = true) : rest = [] := by
  obtain ⟨body, last, rfl, -, hbody⟩ := h.exists_last
  obtain ⟨more, hmore⟩ := hbegin
  cases rest with
  | nil => rfl
  | cons r rest =>
    -- Something is left after `k`, so `k` is not the last of the word.
    obtain ⟨init, final, htail⟩ := (List.eq_nil_or_concat (r :: rest ++ more)).resolve_left nofun
    have hsplit : (front ++ k :: init) ++ [final] = body ++ [last] := by
      rw [← hmore, List.append_assoc, List.append_assoc, List.cons_append, List.cons_append,
        htail, List.concat_eq_append]
    have hfront : front ++ k :: init = body := (List.append_inj' hsplit rfl).1
    have hmem : k ∈ body := hfront ▸ List.mem_append_right front List.mem_cons_self
    rw [hbody k hmem] at hk
    cases hk

end IsWord

/-! ## What was said keeps to the grammar -/

namespace Outbox

theorem kinds_pairsFrame (kind : FrameKind) (pairs : Pairs) :
    (pairsFrame kind pairs).map Frame.kind = [] ∨
      (pairsFrame kind pairs).map Frame.kind = [kind] := by
  unfold pairsFrame
  split
  · exact .inl rfl
  · exact .inr rfl

end Outbox

namespace Speech

variable {calls : Speech}

theorem kinds_begun (calls : Speech) :
    ∃ head, (head = [] ∨ head = [.header]) ∧
      calls.begun.map Frame.kind = head ++ List.replicate calls.payloads.length .data := by
  refine ⟨_, Outbox.kinds_pairsFrame .header calls.headers, ?_⟩
  rw [begun, List.map_append, List.map_map]
  exact congrArg _ (List.map_const' ..)

theorem isWord_worth (calls : Speech) (outcome : Except StreamError Unit) :
    IsWord ((calls.worth (some outcome)).map Frame.kind) := by
  obtain ⟨head, hhead, hbegun⟩ := calls.kinds_begun
  rcases outcome with e | ⟨⟩
  · by_cases hsilent : calls.payloads = []
    · exact ⟨[], 0, [.error], by simp [worth, hsilent], .inl rfl, .inr (.inr rfl)⟩
    · exact ⟨head, calls.payloads.length, [.error], by simp [worth, hsilent, hbegun], hhead,
        .inr (.inr rfl)⟩
  · rcases Outbox.kinds_pairsFrame .trailer calls.trailers with htrailer | htrailer
    · exact ⟨head, calls.payloads.length, [.finish], by simp [worth, hbegun, htrailer], hhead,
        .inl rfl⟩
    · exact ⟨head, calls.payloads.length, [.trailer, .finish],
        by simp [worth, hbegun, htrailer], hhead, .inr (.inl rfl)⟩

theorem isWord_frames (hclosed : calls.outcome? ≠ none) :
    IsWord (calls.frames.map Frame.kind) := by
  obtain ⟨outcome, hsome⟩ := Option.ne_none_iff_exists'.mp hclosed
  rw [frames, hsome]
  exact isWord_worth _ outcome

/-- A speech that has not ended the output is a word as soon as an error comes after it. -/
theorem isWord_frames_error (hopen : calls.outcome? = none) (e : StreamError) :
    IsWord (List.map Frame.kind (calls.frames ++ [⟨.error, Utf8.encode e.message⟩])) := by
  rw [frames_of_open hopen]
  exact isWord_worth calls (.error e)

theorem exists_isWord (calls : Speech) :
    ∃ word, IsWord word ∧ calls.frames.map Frame.kind <+: word := by
  by_cases hopen : calls.outcome? = none
  · refine ⟨_, isWord_frames_error hopen .shuttingDown, ?_⟩
    rw [List.map_append]
    exact List.prefix_append _ _
  · exact ⟨_, isWord_frames hopen, List.prefix_rfl⟩

theorem countP_data_pairsFrame {kind : FrameKind} (hkind : kind ≠ .data) (pairs : Pairs) :
    (Outbox.pairsFrame kind pairs).countP (·.kind = .data) = 0 := by
  unfold Outbox.pairsFrame
  split
  · rfl
  · simp [hkind]

theorem countP_data_begun (calls : Speech) :
    calls.begun.countP (·.kind = .data) = calls.payloads.length := by
  have hheader : (Outbox.pairsFrame .header calls.headers).countP (·.kind = .data) = 0 :=
    countP_data_pairsFrame (by decide) _
  rw [begun, List.countP_append, hheader, Nat.zero_add, List.countP_map]
  exact List.countP_eq_length.mpr fun _ _ => rfl

theorem countP_data_frames (calls : Speech) :
    calls.frames.countP (·.kind = .data) = calls.body.payloads.length := by
  have hbegun : ((if calls.body.payloads.isEmpty then [] else calls.body.begun) :
      List Frame).countP (·.kind = .data) = calls.body.payloads.length := by
    split
    · next hsilent => simp [List.isEmpty_iff.mp hsilent]
    · exact countP_data_begun _
  unfold frames worth
  split
  · exact hbegun
  · have htrailer :
        (Outbox.pairsFrame .trailer calls.body.trailers).countP (·.kind = .data) = 0 :=
      countP_data_pairsFrame (by decide) _
    rw [List.countP_append, List.countP_append, countP_data_begun, htrailer]
    rfl
  · rw [List.countP_append, hbegun]
    rfl

end Speech
/-! ## Sessions keep to the grammar -/

namespace Session

variable {s : Session} {op : Operation} {r : Response} {t : Turn} {past : History}

theorem Books.exists_isWord (h : s.Books past) :
    ∃ word, IsWord word ∧ past.delivered.map Frame.kind <+: word := by
  cases hcause : s.cause with
  | none =>
    obtain ⟨word, hword, hbegin⟩ := past.heard.exists_isWord
    have htold : past.delivered <+: past.heard.frames := ⟨_, (h.account hcause).2.balance⟩
    exact ⟨word, hword, (htold.map Frame.kind).trans hbegin⟩
  | some cause =>
    cases h.epilogue cause hcause with
    | cut _ _ htold =>
      rw [htold]
      exact Speech.exists_isWord _
    | complete _ hended htold =>
      rw [htold]
      exact ⟨_, Speech.isWord_frames hended, List.prefix_rfl⟩
    | notified _ _ hopen htold =>
      rw [htold]
      exact ⟨_, Speech.isWord_frames_error hopen cause, List.prefix_rfl⟩

/-- Whoever is not live, though the front end did not close it, delivered a whole word. -/
theorem Books.isWord_of_retired (h : s.Books past) (hs : s.Sound) (hlive : s.live = false)
    (hclosed : past.closed = false) : IsWord (past.delivered.map Frame.kind) := by
  cases hcause : s.cause with
  | none =>
    have haccount := (h.account hcause).2
    have hended : past.heard.outcome? ≠ none := by
      intro hopen
      have hout := haccount.outputOpen.mpr hopen
      rw [hs.shut_of_retired hcause hlive] at hout
      cases hout
    have htold : past.delivered = past.heard.frames := by
      rw [← haccount.balance, hs.flushed (hs.ready_of_retired hcause hlive), List.append_nil]
    rw [htold]
    exact Speech.isWord_frames hended
  | some cause =>
    cases h.epilogue cause hcause with
    | cut hcut =>
      rw [hclosed] at hcut
      cases hcut
    | complete _ hended htold =>
      rw [htold]
      exact Speech.isWord_frames hended
    | notified _ _ hopen htold =>
      rw [htold]
      exact Speech.isWord_frames_error hopen cause

/-- After the front end closed the session nothing is delivered for it. -/
def Hushed (s : Session) (past : History) : Prop :=
  ∀ earlier e later, past = earlier ++ e :: later → e.op.isClose = true →
    e.response.refused = false → e.frames = [] ∧ History.delivered later = [] ∧ s.live = false

theorem Hushed.step (h : s.Hushed past) (hs : s.Sound) (heffect : Effect s op r t) :
    t.session.Hushed (past ++ [s.episodeOf op r t]) := by
  intro earlier e later hsplit hclose hanswered
  rcases List.eq_nil_or_concat later with rfl | ⟨init, last, rfl⟩
  · -- The operation is the closing itself.
    obtain ⟨-, hlast⟩ := List.append_inj' hsplit rfl
    obtain rfl := (List.cons.inj hlast).1
    have hop : op.isClose = true := hclose
    have hr : r.refused = false := hanswered
    cases heffect with
    | gone hlive => exact ⟨rfl, rfl, hlive⟩
    | closed hlive => exact ⟨rfl, rfl, rfl⟩
    | refused hrefused =>
      rw [hrefused] at hr
      cases hr
    | _ => cases hop
  · -- The closing was before: the session is not live any more.
    rw [List.concat_eq_append, ← List.cons_append, ← List.append_assoc] at hsplit
    obtain ⟨hpast, hlast⟩ := List.append_inj' hsplit rfl
    obtain rfl := (List.cons.inj hlast).1
    obtain ⟨hframes, hlater, hlive⟩ := h earlier e init hpast hclose hanswered
    obtain ⟨hquiet, hstill⟩ := heffect.quiet hs hlive
    refine ⟨hframes, ?_, hstill⟩
    rw [List.concat_eq_append, History.delivered_append, hlater, History.delivered_singleton]
    exact hquiet

/-- A client stream delivers one response at most. -/
def Single (s : Session) (past : History) : Prop :=
  s.shape = .clientStream → past.delivered.countP (·.kind = .data) ≤ 1

/-- The books allow one response only. -/
theorem Account.single {told : List Frame} {calls : Speech} (h : Account told calls s)
    (hshape : s.shape = .clientStream) : told.countP (·.kind = .data) ≤ 1 := by
  have hcount : told.countP (·.kind = .data) ≤ calls.frames.countP (·.kind = .data) := by
    rw [← h.balance, List.countP_append]
    exact Nat.le_add_right _ _
  rw [Speech.countP_data_frames, h.once hshape] at hcount
  split at hcount
  · exact hcount
  · exact Nat.le_trans hcount (Nat.zero_le 1)

/-- What is told as a session is ended by force, or later, is no response. -/
theorem Effect.countP_data (heffect : Effect s op r t) (hs : s.Sound)
    (hforced : t.session.cause ≠ none) : t.frames.countP (·.kind = .data) = 0 := by
  cases hwas : s.cause with
  | some cause => rw [(heffect.quiet hs (hs.live_of_cause hwas)).1, List.countP_nil]
  | none =>
    cases heffect with
    | closed => rfl
    | expired | stopped =>
      simp only [struck]
      split <;> rfl
    | _ => exact absurd hwas hforced

theorem Single.step (h : s.Single past) (hs : s.Sound) (heffect : Effect s op r t)
    (hbooks : t.session.Books (past ++ [s.episodeOf op r t])) :
    t.session.Single (past ++ [s.episodeOf op r t]) := by
  intro hshape
  by_cases hcause : t.session.cause = none
  · exact (hbooks.account hcause).2.single hshape
  · rw [History.delivered_append, History.delivered_singleton, List.countP_append]
    have hnone : (s.episodeOf op r t).frames.countP (·.kind = .data) = 0 :=
      heffect.countP_data hs hcause
    rw [hnone]
    exact h ((heffect.precedes hs).shape ▸ hshape)

end Session

namespace Manager

variable {capacity earlier : Nat} {ops : List Operation} {id : SessionId} {s : Session}

theorem hushed (h : ((fresh capacity earlier).after ops).find? id = some s) :
    s.Hushed ((fresh capacity earlier).history id ops) := by
  refine (invariant (P := fun past s => s.Hushed past) ?_ ?_ h).2
  · intro past shape now hvoid before e later hsplit _ hanswered
    have hrefused := (hvoid e (by simp [hsplit])).refused
    rw [hanswered] at hrefused
    cases hrefused
  · intro past s op r t hs heffect hpast
    exact hpast.step hs heffect

theorem single (h : ((fresh capacity earlier).after ops).find? id = some s) :
    s.Single ((fresh capacity earlier).history id ops) := by
  refine (invariant (P := fun past s => s.Books past ∧ s.Single past) ?_ ?_ h).2.2
  · intro past shape now hvoid
    refine ⟨Session.books_fresh hvoid, fun _ => ?_⟩
    rw [History.delivered_of_void hvoid]
    exact Nat.zero_le 1
  · intro past s op r t hs heffect ⟨hbooks, hpast⟩
    have hnext := hbooks.step hs heffect
    exact ⟨hnext, hpast.step hs heffect hnext⟩

/-- **Deliveries keep to the grammar.** The kinds delivered for a session begin a word; a
client stream delivers one response at most; nothing is delivered after an end or an
error, nor from the moment on that the front end closes the session; and a session that is
not live any more, though the front end did not close it, delivered exactly one end or
error. -/
theorem delivered_keeps_to_grammar
    (h : ((fresh capacity earlier).after ops).find? id = some s) :
    let past := (fresh capacity earlier).history id ops
    (∃ word, IsWord word ∧ past.delivered.map Frame.kind <+: word) ∧
    (s.shape = .clientStream → past.delivered.countP (·.kind = .data) ≤ 1) ∧
    (∀ before after : History, past = before ++ after →
      (∃ f ∈ before.delivered, f.kind.isTerminal = true) → after.delivered = []) ∧
    (∀ (before : History) (e : Episode) (after : History), past = before ++ e :: after →
      e.op = .close id → e.response = .done (.ok ()) → e.frames = [] ∧ after.delivered = []) ∧
    (s.live = false → past.closed = false →
      past.delivered.countP (·.kind.isTerminal) = 1) := by
  intro past
  obtain ⟨hs, hbooks⟩ := books h
  refine ⟨hbooks.exists_isWord, single h, ?_, ?_, ?_⟩
  · intro before after hsplit ⟨f, hf, hterminal⟩
    obtain ⟨word, hword, hbegin⟩ := hbooks.exists_isWord
    obtain ⟨front, rest, hbefore⟩ := List.append_of_mem hf
    have hdelivered : past.delivered = front ++ f :: (rest ++ after.delivered) := by
      rw [hsplit, History.delivered_append, hbefore, List.append_assoc, List.cons_append]
    have hbegin : past.delivered.map Frame.kind <+: word := hbegin
    rw [hdelivered, List.map_append, List.map_cons] at hbegin
    have hnil := hword.eq_nil_of_terminal hbegin hterminal
    exact (List.append_eq_nil_iff.mp (List.map_eq_nil_iff.mp hnil)).2
  · intro before e after hsplit hop hresponse
    obtain ⟨hframes, hafter, -⟩ := hushed h before e after hsplit (by rw [hop]; rfl)
      (by rw [hresponse]; rfl)
    exact ⟨hframes, hafter⟩
  · intro hlive hclosed
    have hcount := (hbooks.isWord_of_retired hs hlive hclosed).countP_terminal
    rw [List.countP_map] at hcount
    exact hcount

/-- A handler that ended in order before the front end was ready: the session waits with
its output, and when it has waited for too long the error is the only end that is told. -/
theorem delivered_keeps_to_grammar_expired :
    let ops : List Operation :=
      [.openSession ⟨0⟩ .serverStream, .call ⟨1⟩ ⟨1⟩ (.send [7]),
        .call ⟨2⟩ ⟨1⟩ (.finish (.returned (.ok ()))), .expireIdle ⟨9⟩ ⟨5⟩]
    let past := (fresh 1 0).history ⟨1⟩ ops
    past.delivered.map Frame.kind = [.error] ∧
      past.delivered.countP (·.kind.isTerminal) = 1 := by
  intro ops past
  have hfind : ((fresh 1 0).after ops).find? ⟨1⟩ =
    some (((fresh 1 0).after ops).find? ⟨1⟩ |>.get rfl) := rfl
  obtain ⟨-, -, -, -, hretired⟩ := delivered_keeps_to_grammar hfind
  exact ⟨rfl, hretired rfl rfl⟩

end Manager
end Switchboard
