import Switchboard.Proofs.Metadata.RoundTrip

/-!
# Timeout — which line settles the timeout

Lines are read one after another, and a line that has the key of the timeout settles it anew.
So of several such lines the last one counts, and it counts also when its value is unusable:
then there is no timeout, whatever was said before. A line with an unusable value is without
effect only where a later line settles the timeout or where there was none to take away.
-/

namespace Switchboard.Metadata

/-! ## Lines of a whole -/

variable {front line back : Bytes} {m : Metadata}

/-- A line feed parts the segments before it from those after it. -/
theorem segments_part (front rest : Bytes) :
    segments (front ++ lineFeed :: rest) = segments front ++ segments rest := by
  induction front with
  | nil => simp [segments]
  | cons b front ih =>
    rw [List.cons_append, segments, segments, ih]
    by_cases hb : b = lineFeed
    · simp [hb]
    · rw [if_neg hb, if_neg hb]
      obtain ⟨s, ss, hfront⟩ := List.exists_cons_of_ne_nil (segments_ne_nil front)
      simp [hfront]

theorem segments_of_not_mem (h : lineFeed ∉ line) : segments line = [line] := by
  induction line with
  | nil => rfl
  | cons b line ih =>
    rw [List.mem_cons, not_or] at h
    rw [segments, if_neg (Ne.symm h.1), ih h.2]

/-- What the lines come to, one after another. -/
def said (raw : Bytes) : List Line := (lines raw).map Line.read

theorem said_nil : said [] = [.void] := rfl

theorem said_part (front rest : Bytes) :
    said (front ++ lineFeed :: rest) = said front ++ said rest := by
  simp [said, lines, segments_part]

theorem said_of_not_mem (h : lineFeed ∉ line) : said line = [Line.read (chomp line)] := by
  simp [said, lines, segments_of_not_mem h]

/-- Every line of it is ended. -/
def Complete (front : Bytes) : Prop := ∀ b ∈ front.getLast?, b = lineFeed

/-- The line before it ends here. -/
def Follows (back : Bytes) : Prop := ∀ b ∈ back.head?, b = lineFeed

instance (front : Bytes) : Decidable (Complete front) :=
  Option.decidableForallMem front.getLast?

instance (back : Bytes) : Decidable (Follows back) :=
  Option.decidableForallMem back.head?

theorem Complete.eq (h : Complete front) : front = [] ∨ ∃ most, front = most ++ [lineFeed] := by
  rcases List.eq_nil_or_concat front with hnil | ⟨most, b, hmost⟩
  · exact .inl hnil
  · have hb : b = lineFeed := h b (by simp [hmost])
    exact .inr ⟨most, by simp [hmost, hb]⟩

theorem Follows.eq (h : Follows back) : back = [] ∨ ∃ rest, back = lineFeed :: rest := by
  cases back with
  | nil => exact .inl rfl
  | cons b rest =>
    obtain rfl : b = lineFeed := h b rfl
    exact .inr ⟨rest, rfl⟩

/-! ## What reading makes of the lines -/

namespace Line

/-- The entry that a line makes. -/
def pair? : Line → Option (String × String)
  | pair key value => some (key, value)
  | void | timeout _ => none

/-- The reading of a timeout line: `some none` if the line names the timeout and no usable value. -/
def timeout? : Line → Option (Option Duration)
  | timeout reading => some reading
  | void | pair .. => none

end Line

theorem entries_foldl (ls : List Line) (m : Metadata) :
    (ls.foldl apply m).entries = m.entries ++ ls.filterMap Line.pair? := by
  induction ls generalizing m with
  | nil => simp
  | cons l ls ih =>
    rw [List.foldl_cons, ih, List.filterMap_cons]
    cases l <;> simp [apply, insert, Line.pair?]

/-- The last line that has something to say of the timeout settles it. -/
theorem timeout_foldl (ls : List Line) (m : Metadata) :
    (ls.foldl apply m).timeout = (ls.filterMap Line.timeout?).getLast?.getD m.timeout := by
  induction ls generalizing m with
  | nil => rfl
  | cons l ls ih =>
    rw [List.foldl_cons, ih, List.filterMap_cons]
    cases l with
    | void | pair => rfl
    | timeout reading =>
      simp only [Line.timeout?, List.getLast?_cons, Option.getD_some]
      rfl

/-- What the timeout lines say, one after another: a timeout, or an unusable value. -/
def readings (raw : Bytes) : List (Option Duration) := (said raw).filterMap Line.timeout?

/-- The usable timeouts that were given, one after another. -/
def usable (raw : Bytes) : List Duration := (readings raw).filterMap id

theorem entries_parse (raw : Bytes) : (parse raw).entries = (said raw).filterMap Line.pair? := by
  rw [parse, ← said, entries_foldl]
  rfl

theorem timeout_parse (raw : Bytes) : (parse raw).timeout = (readings raw).getLast?.join := by
  rw [parse, ← said, timeout_foldl, ← readings]
  cases (readings raw).getLast? <;> rfl

/-- The last timeout line is the last usable one, unless its value is unusable and takes away
what was given before. -/
theorem join_getLast?_eq_iff (rs : List (Option Duration)) :
    rs.getLast?.join = (rs.filterMap id).getLast? ↔
      rs.getLast? ≠ some none ∨ rs.filterMap id = [] := by
  rcases List.eq_nil_or_concat rs with rfl | ⟨most, last, rfl⟩
  · simp
  · cases last with
    | some d => simp
    | none =>
      have hgiven : (most.concat none).filterMap id = most.filterMap id := by simp
      have hlast : (most.concat none).getLast? = some none := by simp
      have hnone : none = (most.filterMap id).getLast? ↔ most.filterMap id = [] := by
        rw [eq_comm, List.getLast?_eq_none_iff]
      rw [hgiven, hlast, Option.join_some, hnone]
      simp

/-! ## A line with an unusable value -/

/-- The line has the key of the timeout, and its value is no positive number of at most
sixty-four bits, with blanks around it. -/
def Unusable (line : Bytes) : Prop :=
  ∃ key value, chomp line = key ++ equalsSign :: value ∧ equalsSign ∉ key ∧
    Utf8.decode key = timeoutKey ∧
    ∀ n, Numeral.read? (Blank.trim (Utf8.decode value).toList) = some n →
      n = 0 ∨ Numeral.max64 < n

theorem readTimeout_eq_none {value : String}
    (h : ∀ n, Numeral.read? (Blank.trim value.toList) = some n → n = 0 ∨ Numeral.max64 < n) :
    readTimeout value = none := by
  rw [readTimeout, Numeral.readUpTo?, Option.map_eq_none_iff, Option.filter_eq_none_iff]
  intro n hn
  obtain ⟨hread, hmax⟩ := Option.filter_eq_some_iff.mp hn
  have hmax : n ≤ Numeral.max64 := of_decide_eq_true hmax
  rcases h n hread with rfl | habove
  · simp
  · omega

theorem Unusable.read (h : Unusable line) : Line.read (chomp line) = .timeout none := by
  obtain ⟨key, value, hline, hseparated, hkey, hvalue⟩ := h
  have hnamed : key ≠ [] := by
    rintro rfl
    revert hkey
    decide
  rw [hline, read_separated hseparated, if_neg hnamed, if_pos hkey, readTimeout_eq_none hvalue]

variable {α : Type} {g : Line → Option α}

/-! What is told of the lines one by one is told of a part, then of the line, then of the rest,
as long as nothing is told of a line that says nothing. -/

theorem filterMap_said_complete (hvoid : g .void = none) (hfront : Complete front)
    (rest : Bytes) :
    (said (front ++ rest)).filterMap g = (said front).filterMap g ++ (said rest).filterMap g := by
  rcases hfront.eq with rfl | ⟨most, rfl⟩
  · simp [said_nil, hvoid]
  · rw [List.append_assoc, List.singleton_append, said_part, said_part, said_nil]
    simp [hvoid]

theorem filterMap_said_line (hvoid : g .void = none) (hline : lineFeed ∉ line)
    (hback : Follows back) :
    (said (line ++ back)).filterMap g =
      (g (Line.read (chomp line))).toList ++ (said back).filterMap g := by
  rcases hback.eq with rfl | ⟨rest, rfl⟩
  · rw [List.append_nil, said_of_not_mem hline, said_nil]
    cases hread : g (Line.read (chomp line)) <;> simp [hvoid, hread]
  · have hrest : said (lineFeed :: rest) = [.void] ++ said rest := said_part [] rest
    rw [said_part, said_of_not_mem hline, hrest]
    cases hread : g (Line.read (chomp line)) <;> simp [hvoid, hread]

theorem filterMap_said_tail (hvoid : g .void = none) (hback : Follows back) :
    (said back.tail).filterMap g = (said back).filterMap g := by
  rcases hback.eq with rfl | ⟨rest, rfl⟩
  · rfl
  · have hrest : said (lineFeed :: rest) = [.void] ++ said rest := said_part [] rest
    rw [hrest]
    simp [hvoid]

theorem eq_iff_timeout {n : Metadata} (hentries : m.entries = n.entries) :
    m = n ↔ m.timeout = n.timeout := by
  refine ⟨congrArg timeout, fun htimeout => ?_⟩
  cases m
  cases n
  cases hentries
  cases htimeout
  rfl

/-- Without a line that has an unusable value, the entries are the same, and the timeout is if
a later line settles it or there was none before. -/
theorem parse_without_unusable (hfront : Complete front) (hline : lineFeed ∉ line)
    (hback : Follows back) (hunusable : Unusable line) :
    (parse (front ++ line ++ back)).entries = (parse (front ++ back.tail)).entries ∧
      (parse (front ++ line ++ back) = parse (front ++ back.tail) ↔
        readings back ≠ [] ∨ (parse front).timeout = none) := by
  have hread := hunusable.read
  have hentries : (parse (front ++ line ++ back)).entries =
      (parse (front ++ back.tail)).entries := by
    rw [entries_parse, entries_parse, List.append_assoc, filterMap_said_complete rfl hfront,
      filterMap_said_complete rfl hfront, filterMap_said_line rfl hline hback,
      filterMap_said_tail rfl hback, hread]
    rfl
  have hwith : readings (front ++ line ++ back) = readings front ++ none :: readings back := by
    rw [readings, List.append_assoc, filterMap_said_complete rfl hfront,
      filterMap_said_line rfl hline hback, hread]
    rfl
  have hwithout : readings (front ++ back.tail) = readings front ++ readings back := by
    rw [readings, filterMap_said_complete rfl hfront, filterMap_said_tail rfl hback]
    rfl
  refine ⟨hentries, (eq_iff_timeout hentries).trans ?_⟩
  rw [timeout_parse, timeout_parse, timeout_parse, hwith, hwithout]
  rcases List.eq_nil_or_concat (readings back) with hnone | ⟨most, last, hlast⟩
  · rw [hnone]
    simp [eq_comm]
  · rw [hlast]
    simp [List.getLast?_cons]

/-- **Which line settles the timeout.** The last line that has the key of the timeout does, and
where its value is unusable there is no timeout. So the timeout is the last usable one that was
given exactly if no unusable value comes after it. Taking a line with an unusable value away
never changes the entries; it changes the timeout exactly if no later line settles it and there
was one before. -/
theorem unusable_timeout_counts (raw : Bytes) :
    (parse raw).timeout = (readings raw).getLast?.join ∧
    ((parse raw).timeout = (usable raw).getLast? ↔
      (readings raw).getLast? ≠ some none ∨ usable raw = []) ∧
    ∀ front line back, raw = front ++ line ++ back →
      Complete front → lineFeed ∉ line → Follows back → Unusable line →
      (parse raw).entries = (parse (front ++ back.tail)).entries ∧
        (parse raw = parse (front ++ back.tail) ↔
          readings back ≠ [] ∨ (parse front).timeout = none) := by
  refine ⟨timeout_parse raw, ?_, ?_⟩
  · rw [timeout_parse]
    exact join_getLast?_eq_iff (readings raw)
  · rintro front line back rfl hfront hline hback hunusable
    exact parse_without_unusable hfront hline hback hunusable

/-- The value of the second line is no number, and the timeout of five milliseconds that the
first one gave is lost. -/
theorem unusable_timeout_counts_twice :
    let front := Utf8.encode "__timeout_ms=5\n"
    let line := Utf8.encode "__timeout_ms=soon"
    (parse front).timeout = some (.ofMillis 5) ∧
      (parse (front ++ line ++ [])).timeout = none ∧
      parse (front ++ line ++ []) ≠ parse (front ++ [].tail) := by
  intro front line
  have hsettled : (parse front).timeout = some (.ofMillis 5) := by decide +kernel
  have hunusable : Unusable line := by
    refine ⟨Utf8.encode timeoutKey, Utf8.encode "soon", by decide +kernel, by decide +kernel,
      Utf8.decode_encode _, ?_⟩
    have hnumeral : Numeral.read? (Blank.trim (Utf8.decode (Utf8.encode "soon")).toList) =
        none := by decide +kernel
    rw [hnumeral]
    exact nofun
  obtain ⟨hlast, -, hwithout⟩ := unusable_timeout_counts (front ++ line ++ [])
  obtain ⟨-, hsame⟩ := hwithout front line [] rfl (by decide +kernel) (by decide +kernel)
    (by decide) hunusable
  refine ⟨hsettled, ?_, ?_⟩
  · rw [hlast]
    decide +kernel
  · rw [ne_eq, hsame, hsettled]
    decide

end Switchboard.Metadata
