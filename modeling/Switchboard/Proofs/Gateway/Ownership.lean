import Switchboard.Proofs.Gateway.Reading

/-!
# Ownership — whose bytes are whose

A run of a ledger makes envelopes and frees pointers, in any order and any pointers: one that
was handed out, one that was freed before, one that is null and one that nobody handed out.
What is out at the end are the envelopes that were made with bytes and not freed since
(`unfreed`), each at a pointer of its own and with the bytes that it was made with.
-/

namespace Switchboard.Gateway

/-! ## Making envelopes -/

/-- What an envelope is made to say. -/
inductive Content where
  | payload (bytes : Bytes)
  | diagnostic (bytes : Bytes)
  deriving DecidableEq

/-- The bytes of a content, whatever they stand for. -/
def Content.bytes : Content → Bytes
  | payload bytes | diagnostic bytes => bytes

/-- The number of bytes, below zero for a failure; also one without a text is below zero. -/
def Content.length : Content → Int
  | payload bytes => bytes.length
  | diagnostic bytes => if bytes = [] then -1 else -bytes.length

/-- The ways to make an envelope. -/
inductive Making where
  -- Bytes that the envelope takes over, and bytes that it gets a copy of.
  | taken (bytes : Bytes)
  | copied (bytes : Bytes)
  | failure (text : String)
  | bareFailure
  | empty
  | reply (r : Reply)
  deriving DecidableEq

/-- What an envelope that is made so is to carry. -/
def Making.content : Making → Content
  | taken bytes | copied bytes | reply (.payload bytes) => .payload bytes
  | failure text => .diagnostic (Utf8.encode text)
  | reply (.failed e) => .diagnostic (Utf8.encode e.message)
  | bareFailure => .diagnostic []
  | empty | reply .empty => .payload []

namespace Ledger

variable {l : Ledger} {m : Making} {p : Pointer}

/-- Makes an envelope; there is room for every copy. -/
def make (m : Making) (l : Ledger) : Envelope × Ledger :=
  match m with
  | .taken bytes => l.success bytes
  | .copied bytes => l.copy true bytes
  | .failure text => l.failure text
  | .bareFailure => (.bareFailure, l)
  | .empty => (.empty, l)
  | .reply r => l.reply r

theorem success_of_ne_nil {bs : Bytes} (h : bs ≠ []) (l : Ledger) :
    l.success bs = ({ data := .block l.next, length := bs.length }, (l.place bs).2) := by
  rw [success, if_neg h]
  rfl

theorem failure_of_ne_nil {text : String} (h : Utf8.encode text ≠ []) (l : Ledger) :
    l.failure text =
      ({ data := .block l.next, length := -(Utf8.encode text).length },
        (l.place (Utf8.encode text)).2) := by
  rw [failure, if_neg h]
  rfl

/-- Where there is room, a copy is as good as the bytes themselves. -/
theorem copy?_of_room (bs : Bytes) (l : Ledger) :
    l.copy? true bs = (some (l.success bs).1, (l.success bs).2) := by
  unfold copy?
  by_cases h : bs = []
  · subst h
    rfl
  · rw [if_neg h]
    rfl

theorem copy_of_room (bs : Bytes) (l : Ledger) : l.copy true bs = l.success bs := by
  rw [copy, copy?_of_room]
  rfl

/-- What holds no bytes takes no block. -/
theorem make_of_nil (h : m.content.bytes = []) (l : Ledger) :
    l.make m = ({ data := .null, length := m.content.length }, l) := by
  cases m with
  | taken bytes =>
    have h : bytes = [] := h
    subst h
    rfl
  | copied bytes =>
    have h : bytes = [] := h
    subst h
    rfl
  | failure text =>
    have h : Utf8.encode text = [] := h
    simp [make, failure, Making.content, Content.length, h, Envelope.bareFailure]
  | bareFailure | empty => rfl
  | reply r =>
    cases r with
    | payload bytes =>
      have h : bytes = [] := h
      subst h
      rfl
    | empty => rfl
    | failed e =>
      have h : Utf8.encode e.message = [] := h
      simp [make, reply, failure, Making.content, Content.length, h, Envelope.bareFailure]

/-- What holds bytes takes the next block. -/
theorem make_of_ne_nil (h : m.content.bytes ≠ []) (l : Ledger) :
    l.make m = ({ data := .block l.next, length := m.content.length },
      (l.place m.content.bytes).2) := by
  cases m with
  | taken bytes => exact success_of_ne_nil h l
  | copied bytes => exact (copy_of_room bytes l).trans (success_of_ne_nil h l)
  | bareFailure | empty => exact absurd rfl h
  | failure text =>
    have hne : Utf8.encode text ≠ [] := h
    rw [make, failure_of_ne_nil hne, Making.content, Content.length, if_neg hne]
    rfl
  | reply r =>
    cases r with
    | payload bytes => exact success_of_ne_nil h l
    | empty => exact absurd rfl h
    | failed e =>
      have hne : Utf8.encode e.message ≠ [] := h
      rw [make, reply, failure_of_ne_nil hne, Making.content, Content.length, if_neg hne]
      rfl

theorem length_make (m : Making) (l : Ledger) : (l.make m).1.length = m.content.length := by
  by_cases h : m.content.bytes = []
  · rw [make_of_nil h]
  · rw [make_of_ne_nil h]

theorem data_make_eq_null : (l.make m).1.data = .null ↔ m.content.bytes = [] := by
  by_cases h : m.content.bytes = []
  · simp [make_of_nil h, h]
  · simp [make_of_ne_nil h, h]

/-! ## Reading and releasing -/

/-- The pointers that are out. -/
def pointers (l : Ledger) : List Pointer := l.blocks.map fun b => .block b.1

theorem mem_pointers : p ∈ l.pointers ↔ ∃ b ∈ l.blocks, .block b.1 = p := List.mem_map

theorem read?_eq_none : l.read? p = none ↔ p ∉ l.pointers := by
  rw [mem_pointers]
  cases p with
  | null | foreign => simp [read?]
  | block serial =>
    rw [read?, Option.map_eq_none_iff, List.find?_eq_none]
    simp only [decide_eq_true_eq, Pointer.block.injEq, not_exists, not_and]

/-- What is not out cannot be given back. -/
theorem release_of_not_mem (h : p ∉ l.pointers) : l.release p = l := by
  cases p with
  | null | foreign => rfl
  | block serial =>
    have hkeep : l.blocks.filter (·.1 ≠ serial) = l.blocks := by
      refine List.filter_eq_self.mpr fun b hb => ?_
      have hne : b.1 ≠ serial := by
        intro heq
        exact h (mem_pointers.mpr ⟨b, hb, congrArg Pointer.block heq⟩)
      exact decide_eq_true hne
    rw [release, hkeep]

theorem pointers_release (p : Pointer) (l : Ledger) :
    (l.release p).pointers = l.pointers.filter (· ≠ p) := by
  cases p with
  | null | foreign =>
    refine (List.filter_eq_self.mpr fun q hq => ?_).symm
    obtain ⟨b, -, rfl⟩ := mem_pointers.mp hq
    rfl
  | block serial => simp [release, pointers, List.filter_map, Function.comp_def]

theorem pointers_place (bs : Bytes) (l : Ledger) :
    (l.place bs).2.pointers = l.pointers ++ [.block l.next] := by
  simp [place, pointers]

/-- Giving back one block leaves the others as they are. -/
theorem read?_release {q : Pointer} (h : p ≠ q) (l : Ledger) :
    (l.release q).read? p = l.read? p := by
  cases q with
  | null | foreign => rfl
  | block serial =>
    cases p with
    | null | foreign => rfl
    | block n =>
      have hne : n ≠ serial := fun heq => h (congrArg Pointer.block heq)
      have hfind : (l.blocks.filter (·.1 ≠ serial)).find? (·.1 = n) =
          l.blocks.find? (·.1 = n) := by
        rw [List.find?_filter]
        congr 1
        funext b
        by_cases hb : b.1 = n
        · simp [hb, hne]
        · simp [hb]
      rw [read?, release, hfind]
      rfl

theorem read?_release_self (p : Pointer) (l : Ledger) : (l.release p).read? p = none := by
  rw [read?_eq_none, pointers_release]
  simp

/-- Placing a block leaves the others as they are. -/
theorem read?_place_of_ne (h : p ≠ .block l.next) (bs : Bytes) :
    (l.place bs).2.read? p = l.read? p := by
  cases p with
  | null | foreign => rfl
  | block n =>
    have hne : l.next ≠ n := fun heq => h (congrArg Pointer.block heq.symm)
    simp [read?, place, List.find?_append, hne]

/-! ## Runs -/

/-- What is done with a ledger. -/
inductive Act where
  | make (m : Making)
  | free (p : Pointer)
  deriving DecidableEq

/-- The ledger after an act. -/
def step (l : Ledger) : Act → Ledger
  | .make m => (l.make m).2
  | .free p => l.release p

/-- The ledger after acts, one after the other. -/
def run (l : Ledger) (acts : List Act) : Ledger := acts.foldl step l

/-- The envelopes that are made in a run, in their order. -/
def made (l : Ledger) : List Act → List Envelope
  | [] => []
  | a :: acts =>
    match a with
    | .make m => (l.make m).1 :: made (l.step a) acts
    | .free _ => made (l.step a) acts

/-- Those of them that have bytes and are not freed after they are made. -/
def unfreed (l : Ledger) : List Act → List Envelope
  | [] => []
  | a :: acts =>
    match a with
    | .make m =>
      let e := (l.make m).1
      if e.data ≠ .null ∧ Act.free e.data ∉ acts then e :: unfreed (l.step a) acts
      else unfreed (l.step a) acts
    | .free _ => unfreed (l.step a) acts

variable {acts : List Act}

theorem run_cons (l : Ledger) (a : Act) (acts : List Act) :
    l.run (a :: acts) = (l.step a).run acts := rfl

theorem run_append (l : Ledger) (before acts : List Act) :
    l.run (before ++ acts) = (l.run before).run acts := List.foldl_append

theorem next_le_step (l : Ledger) (a : Act) : l.next ≤ (l.step a).next := by
  cases a with
  | make m =>
    by_cases h : m.content.bytes = []
    · simp [step, make_of_nil h]
    · simp [step, make_of_ne_nil h, place]
  | free p => cases p <;> exact Nat.le_refl _

theorem Sound.step (h : l.Sound) (a : Act) : (l.step a).Sound := by
  cases a with
  | make m =>
    by_cases hbytes : m.content.bytes = []
    · simpa [Ledger.step, make_of_nil hbytes] using h
    · simpa [Ledger.step, make_of_ne_nil hbytes] using h.place m.content.bytes
  | free p => exact h.release p

theorem Sound.run (h : l.Sound) (acts : List Act) : (l.run acts).Sound := by
  induction acts generalizing l with
  | nil => exact h
  | cons a acts ih => exact ih (h.step a)

/-- A pointer that was handed out reads the same after whatever is done, until it is freed. -/
theorem read?_step {n : Nat} (hissued : n < l.next) (a : Act) :
    (l.step a).read? (.block n) = if a = .free (.block n) then none else l.read? (.block n) := by
  cases a with
  | make m =>
    rw [if_neg (by simp)]
    by_cases hbytes : m.content.bytes = []
    · simp [step, make_of_nil hbytes]
    · have hne : Pointer.block n ≠ .block l.next := by
        intro heq
        cases heq
        omega
      simp only [step, make_of_ne_nil hbytes, read?_place_of_ne hne]
  | free p =>
    by_cases hp : p = .block n
    · subst hp
      rw [if_pos rfl]
      exact read?_release_self _ l
    · rw [if_neg (by simpa using hp)]
      exact read?_release (Ne.symm hp) l

theorem read?_run {n : Nat} (hissued : n < l.next) (acts : List Act) :
    (l.run acts).read? (.block n) =
      if Act.free (.block n) ∈ acts then none else l.read? (.block n) := by
  induction acts generalizing l with
  | nil => rfl
  | cons a acts ih =>
    have hnext : n < (l.step a).next := Nat.lt_of_lt_of_le hissued (next_le_step l a)
    rw [run_cons, ih hnext, read?_step hissued]
    by_cases hlater : Act.free (.block n) ∈ acts
    · simp [hlater]
    · by_cases ha : a = .free (.block n)
      · simp [ha]
      · simp [ha, hlater, Ne.symm ha]

/-- **What is out at the end of a run**: what was out before and was not freed, and then what
was made and not freed, in this order. -/
theorem pointers_run (l : Ledger) (acts : List Act) :
    (l.run acts).pointers =
      l.pointers.filter (fun p => Act.free p ∉ acts) ++ (l.unfreed acts).map (·.data) := by
  induction acts generalizing l with
  | nil =>
    have hall : l.pointers.filter (fun p => Act.free p ∉ []) = l.pointers :=
      List.filter_eq_self.mpr fun p _ => decide_eq_true List.not_mem_nil
    rw [hall]
    exact (List.append_nil _).symm
  | cons a acts ih =>
    rw [run_cons, ih]
    cases a with
    | make m =>
      by_cases hbytes : m.content.bytes = []
      · simp [step, make_of_nil hbytes, unfreed]
      · by_cases hfreed : Act.free (.block l.next) ∈ acts
        · simp [step, make_of_ne_nil hbytes, unfreed, pointers_place, hfreed]
        · simp [step, make_of_ne_nil hbytes, unfreed, pointers_place, hfreed]
    | free q =>
      have hkept : (l.release q).pointers.filter (fun p => Act.free p ∉ acts) =
          l.pointers.filter fun p => Act.free p ∉ Act.free q :: acts := by
        rw [pointers_release, List.filter_filter]
        refine List.filter_congr fun p _ => ?_
        simp [Bool.and_comm]
      simp only [step, unfreed, hkept]

theorem unfreed_sublist (l : Ledger) (acts : List Act) :
    (l.unfreed acts).Sublist (l.made acts) := by
  induction acts generalizing l with
  | nil => exact List.Sublist.refl _
  | cons a acts ih =>
    cases a with
    | make m =>
      unfold unfreed made
      dsimp only
      split
      · exact (ih _).cons_cons _
      · exact (ih _).cons _
    | free p => exact ih _

/-- No two envelopes that are made have the same bytes behind them. -/
theorem nodup_made (l : Ledger) (acts : List Act) :
    (((l.made acts).map (·.data)).filter (· ≠ .null)).Nodup ∧
      ∀ n, .block n ∈ (l.made acts).map (·.data) → l.next ≤ n := by
  induction acts generalizing l with
  | nil => simp [made]
  | cons a acts ih =>
    obtain ⟨hnodup, hfresh⟩ := ih (l.step a)
    cases a with
    | free p =>
      refine ⟨hnodup, fun n hn => ?_⟩
      exact Nat.le_trans (next_le_step l _) (hfresh n hn)
    | make m =>
      by_cases hbytes : m.content.bytes = []
      · simp only [made, step, make_of_nil hbytes] at hnodup hfresh ⊢
        refine ⟨by simpa using hnodup, fun n hn => hfresh n ?_⟩
        simpa using hn
      · simp only [made, step, make_of_ne_nil hbytes] at hnodup hfresh ⊢
        have hnext : (l.place m.content.bytes).2.next = l.next + 1 := rfl
        have hnot : Pointer.block l.next ∉
            ((l.place m.content.bytes).2.made acts).map (·.data) := by
          intro hmem
          have hlt := hfresh _ hmem
          omega
        constructor
        · rw [List.map_cons, List.filter_cons_of_pos (by simp), List.nodup_cons]
          exact ⟨fun hmem => hnot (List.mem_filter.mp hmem).1, hnodup⟩
        · intro n hn
          rw [List.map_cons, List.mem_cons] at hn
          rcases hn with heq | hlater
          · cases heq
            exact Nat.le_refl _
          · have hlt := hfresh n hlater
            omega

/-- What is not freed later is read back, with any length. -/
theorem copyOut_made (h : l.Sound) (m : Making) (later : List Act) (length : Int) :
    ((l.make m).2.run later).copyOut { (l.make m).1 with length } =
      if m.content.bytes = [] ∨ Act.free (l.make m).1.data ∈ later then none
      else some m.content.bytes := by
  unfold copyOut
  by_cases hbytes : m.content.bytes = []
  · rw [if_pos (.inl hbytes), make_of_nil hbytes]
    rfl
  · rw [make_of_ne_nil hbytes]
    dsimp only
    have hplaced : (l.place m.content.bytes).2.read? (.block l.next) = some m.content.bytes :=
      h.read?_place (List.prefix_refl _)
    rw [read?_run (Nat.lt_succ_self _), hplaced]
    simp [hbytes]

/-- There is nothing to read or to free at the pointer: it is null, or of no envelope that
was made, or freed since. -/
inductive Gone (acts : List Act) : Pointer → Prop where
  | null : Gone acts .null
  | foreign {p : Pointer} (h : p ∉ (made {} acts).map (·.data)) : Gone acts p
  | freed {before later : List Act} {m : Making} (h : acts = before ++ .make m :: later)
      (hfreed : Act.free ((run {} before).make m).1.data ∈ later) :
      Gone acts ((run {} before).make m).1.data

theorem pointers_run_empty (acts : List Act) :
    (run {} acts).pointers = (unfreed {} acts).map (·.data) := pointers_run {} acts

theorem copyOut_run {before later : List Act} (h : acts = before ++ .make m :: later)
    (length : Int) :
    (run {} acts).copyOut { ((run {} before).make m).1 with length } =
      if m.content.bytes = [] ∨ Act.free ((run {} before).make m).1.data ∈ later then none
      else some m.content.bytes := by
  rw [h, run_append]
  exact copyOut_made (sound_empty.run before) m later length

theorem Gone.read? (h : Gone acts p) : (run {} acts).read? p = none := by
  cases h with
  | null => rfl
  | foreign hnever =>
    rw [read?_eq_none, pointers_run_empty]
    intro hmem
    exact hnever (((unfreed_sublist {} acts).map _).subset hmem)
  | freed hacts hfreed => exact (copyOut_run hacts 0).trans (if_pos (.inr hfreed))

/-- **Ownership.** After any run the live blocks are as many as the envelopes made with bytes
and not freed; no two of these have one pointer; each can be read, under any length, for the
bytes that it was made with; and where there is nothing, nothing is read or freed. -/
theorem kept_until_freed (acts : List Act) :
    let l := run {} acts
    l.live = (unfreed {} acts).length ∧
      (((made {} acts).map (·.data)).filter (· ≠ .null)).Nodup ∧
      (∀ before m later, acts = before ++ .make m :: later →
        let e := ((run {} before).make m).1
        (e.data = .null ↔ m.content.bytes = []) ∧
          e.length = m.content.length ∧
          (e.data ≠ .null → Act.free e.data ∉ later →
            ∀ length, l.copyOut { e with length } = some m.content.bytes)) ∧
      (∀ p, Gone acts p →
        (∀ length, l.copyOut { data := p, length } = none) ∧ l.release p = l) ∧
      ∀ bytes, l.copy? true bytes =
        (some (l.make (.copied bytes)).1, (l.make (.copied bytes)).2) := by
  intro l
  refine ⟨?_, (nodup_made {} acts).1, ?_, ?_, ?_⟩
  · have hpointers := congrArg List.length (pointers_run_empty acts)
    simpa only [l, live, pointers, List.length_map] using hpointers
  · intro before m later hacts e
    refine ⟨data_make_eq_null, length_make m _, ?_⟩
    intro hbytes hkept length
    have hne : m.content.bytes ≠ [] := fun hnil => hbytes (data_make_eq_null.mpr hnil)
    rw [copyOut_run hacts, if_neg (not_or.mpr ⟨hne, hkept⟩)]
  · intro p hgone
    refine ⟨fun _ => hgone.read?, ?_⟩
    exact release_of_not_mem (read?_eq_none.mp hgone.read?)
  · intro bytes
    rw [copy?_of_room, make, copy_of_room]

end Ledger
end Switchboard.Gateway
