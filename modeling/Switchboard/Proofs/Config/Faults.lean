import Switchboard.Config
import Switchboard.Proofs.Text.Numeral

/-!
# Faults — what is wrong with a configuration, and which of it is told

An error says something of the configuration it is told of, and `Fault` is that this is so. A
configuration is valid exactly if no error would say the truth, and of several that would, the
one that is told comes first in the order of the checks (`ConfigError.rank`).
-/

namespace Switchboard

variable {n : Nat} {text : String} {e e' : ConfigError} {p q : ConfigError → Prop}
  {x y : Except ConfigError Unit}

/-! ## Ports -/

namespace Endpoint

/-- The text is a numeral for a port: a number of at most sixteen bits. -/
def Names (text : String) (n : Nat) : Prop := Numeral.Denotes text.toList n ∧ n ≤ 65535

theorem readPort_eq_some_iff : readPort text = some n ↔ Names text n :=
  Numeral.readUpTo?_eq_some_iff

theorem readPort_eq_none_iff : readPort text = none ↔ ∀ n, ¬Names text n := by
  simp only [Option.eq_none_iff_forall_ne_some, ne_eq, readPort_eq_some_iff]

theorem isSome_readPort_iff : (readPort text).isSome = true ↔ ∃ n, Names text n := by
  simp only [Option.isSome_iff_exists, readPort_eq_some_iff]

theorem port_eq_some_iff (endpoint : Endpoint) :
    endpoint.port = some n ↔ ∃ text, endpoint.tcpPort = some text ∧ Names text n := by
  simp only [port, Option.bind_eq_some_iff, readPort_eq_some_iff]

end Endpoint

/-! ## Faults -/

/-- Where the check that finds an error stands among the checks. -/
def ConfigError.rank : ConfigError → Nat
  | invalidPort .engine _ => 0
  | invalidPort .view _ => 1
  | inputQueueZero => 2
  | reaperIntervalZero => 3
  | reverseTimeoutZero => 4
  | threadSpawnFailed _ => 5

theorem ConfigError.rank_eq_iff {role : Role} :
    e.rank = (invalidPort role text).rank ↔ ∃ other, e = invalidPort role other := by
  cases e with
  | invalidPort role' other => cases role <;> cases role' <;> simp [rank]
  | _ => cases role <;> simp [rank]

/-- An error that is not of a port is known by its rank. -/
theorem ConfigError.eq_of_rank (hcount : 1 < e.rank ∧ e.rank < 5) (h : e'.rank = e.rank) :
    e' = e := by
  cases e with
  | invalidPort role => cases role <;> simp [rank] at hcount
  | threadSpawnFailed => simp [rank] at hcount
  | inputQueueZero | reaperIntervalZero | reverseTimeoutZero =>
    cases e' with
    | invalidPort role => cases role <;> cases h
    | _ => first | rfl | cases h

namespace Config

variable {c : Config} {k : Nat}

def endpoint (c : Config) : Role → Endpoint
  | .engine => c.engine
  | .view => c.view

/-- What the error says of the configuration is so. -/
def Fault (c : Config) : ConfigError → Prop
  | .invalidPort role text => (c.endpoint role).tcpPort = some text ∧ ∀ n, ¬Endpoint.Names text n
  | .inputQueueZero => c.inputQueueCapacity = 0
  | .reaperIntervalZero => c.reaperInterval.nanos = 0
  | .reverseTimeoutZero => c.reverseCallTimeout.nanos = 0
  | .threadSpawnFailed _ => False

/-- No check finds two faults. -/
theorem Fault.eq_of_rank (h : c.Fault e) (h' : c.Fault e') (hrank : e'.rank = e.rank) : e' = e := by
  cases e with
  | invalidPort role text =>
    obtain ⟨other, rfl⟩ := ConfigError.rank_eq_iff.mp hrank
    rw [Option.some.inj (h.1.symm.trans h'.1)]
  | threadSpawnFailed => exact h.elim
  | _ => exact ConfigError.eq_of_rank (by decide) hrank

/-! ## One check after another -/

/-- What checks come to: nothing is wrong, or what is wrong is told, and nothing that is looked
for earlier is wrong. -/
inductive Told (wrong : ConfigError → Prop) : Except ConfigError Unit → Prop where
  | fine (h : ∀ e, ¬wrong e) : Told wrong (.ok ())
  | fault {e : ConfigError} (h : wrong e) (hfirst : ∀ e', wrong e' → e.rank ≤ e'.rank) :
    Told wrong (.error e)

theorem Told.congr (h : Told p x) (hiff : ∀ e, p e ↔ q e) : Told q x := by
  have hsame : p = q := funext fun e => propext (hiff e)
  exact hsame ▸ h

/-- One check, and the later ones if it finds nothing. -/
theorem Told.next (hx : Told (fun e => c.Fault e ∧ e.rank = k) x)
    (hy : Told (fun e => c.Fault e ∧ k < e.rank) y) :
    Told (fun e => c.Fault e ∧ k ≤ e.rank) (x >>= fun _ => y) := by
  cases hx with
  | fine h =>
    apply hy.congr
    intro e
    have hother : c.Fault e → e.rank ≠ k := fun hfault hrank => h e ⟨hfault, hrank⟩
    constructor
    · rintro ⟨hfault, hrank⟩
      exact ⟨hfault, by omega⟩
    · rintro ⟨hfault, hrank⟩
      have hother := hother hfault
      exact ⟨hfault, by omega⟩
  | fault h hfirst =>
    obtain ⟨hfault, rfl⟩ := h
    exact .fault ⟨hfault, Nat.le_refl _⟩ fun e' he' => he'.2

/-- The check for a number that must not be zero. -/
def nonzero (n : Nat) (e : ConfigError) : Except ConfigError Unit :=
  if n = 0 then .error e else .ok ()

theorem told_nonzero (hcount : 1 < e.rank ∧ e.rank < 5) (hfault : c.Fault e ↔ n = 0) :
    Told (fun e' => c.Fault e' ∧ e'.rank = e.rank) (nonzero n e) := by
  unfold nonzero
  split
  · next hzero =>
    apply Told.fault ⟨hfault.mpr hzero, rfl⟩
    rintro e' ⟨-, hrank⟩
    exact hrank.ge
  · next hpositive =>
    apply Told.fine
    rintro e' ⟨hfault', hrank⟩
    rw [ConfigError.eq_of_rank hcount hrank] at hfault'
    exact hpositive (hfault.mp hfault')

theorem told_port (c : Config) (role : Role) :
    Told (fun e => c.Fault e ∧ e.rank = (ConfigError.invalidPort role "").rank)
      ((c.endpoint role).validate role) := by
  unfold Endpoint.validate
  split
  · next hunset =>
    apply Told.fine
    rintro e ⟨hfault, hrank⟩
    obtain ⟨text, rfl⟩ := ConfigError.rank_eq_iff.mp hrank
    rw [hfault.1] at hunset
    cases hunset
  · next text hset =>
    split
    · next hread =>
      obtain ⟨n, hn⟩ := Endpoint.isSome_readPort_iff.mp hread
      apply Told.fine
      rintro e ⟨hfault, hrank⟩
      obtain ⟨other, rfl⟩ := ConfigError.rank_eq_iff.mp hrank
      obtain ⟨hother, hnone⟩ := hfault
      rw [hset] at hother
      cases hother
      exact hnone n hn
    · next hread =>
      have hnone : ∀ n, ¬Endpoint.Names text n := fun n hn =>
        hread (Endpoint.isSome_readPort_iff.mpr ⟨n, hn⟩)
      have hrank : (ConfigError.invalidPort role text).rank =
          (ConfigError.invalidPort role "").rank := ConfigError.rank_eq_iff.mpr ⟨text, rfl⟩
      apply Told.fault ⟨⟨hset, hnone⟩, hrank⟩
      rintro e' ⟨-, hrank'⟩
      rw [hrank, hrank']

theorem validate_eq (c : Config) :
    c.validate = (do
      (c.endpoint .engine).validate .engine
      (c.endpoint .view).validate .view
      nonzero c.inputQueueCapacity .inputQueueZero
      nonzero c.reaperInterval.nanos .reaperIntervalZero
      nonzero c.reverseCallTimeout.nanos .reverseTimeoutZero
      .ok ()) := by
  unfold validate nonzero
  congr
  funext _
  congr
  funext _
  repeat' split
  all_goals rfl

/-- **The first fault is told**, and if none is there is none. -/
theorem told_validate (c : Config) : Told c.Fault c.validate := by
  have hlast : Told (fun e => c.Fault e ∧ 4 < e.rank) (.ok ()) := by
    apply Told.fine
    rintro e ⟨hfault, hrank⟩
    cases e with
    | invalidPort role => cases role <;> simp [ConfigError.rank] at hrank
    | threadSpawnFailed => exact hfault
    | _ => simp [ConfigError.rank] at hrank
  have hchecks : Told (fun e => c.Fault e ∧ 0 ≤ e.rank) _ :=
    (c.told_port .engine).next <| (c.told_port .view).next <|
      (told_nonzero (e := .inputQueueZero) (by decide) Iff.rfl).next <|
      (told_nonzero (e := .reaperIntervalZero) (by decide) Iff.rfl).next <|
      (told_nonzero (e := .reverseTimeoutZero) (by decide) Iff.rfl).next hlast
  rw [validate_eq]
  exact hchecks.congr fun e => by simp

/-! ## What validation comes to -/

theorem validate_eq_error_iff :
    c.validate = .error e ↔ c.Fault e ∧ ∀ e', c.Fault e' → e.rank ≤ e'.rank := by
  have htold := c.told_validate
  generalize c.validate = x at htold
  cases htold with
  | fine h =>
    constructor
    · intro heq
      cases heq
    · intro hfault
      exact absurd hfault.1 (h e)
  | @fault first h hfirst =>
    constructor
    · intro heq
      cases heq
      exact ⟨h, hfirst⟩
    · rintro ⟨hfault, hleast⟩
      have hrank : first.rank = e.rank := Nat.le_antisymm (hfirst e hfault) (hleast first h)
      rw [hfault.eq_of_rank h hrank]

theorem validate_eq_ok_iff : c.validate = .ok () ↔ ∀ e, ¬c.Fault e := by
  have htold := c.told_validate
  generalize c.validate = x at htold
  cases htold with
  | fine h => exact ⟨fun _ => h, fun _ => rfl⟩
  | fault h =>
    constructor
    · intro heq
      cases heq
    · intro hnone
      exact absurd h (hnone _)

/-- Nothing is wrong if every port that is set is one and no number is zero. -/
theorem forall_not_fault_iff :
    (∀ e, ¬c.Fault e) ↔
      (∀ role text, (c.endpoint role).tcpPort = some text → ∃ n, Endpoint.Names text n) ∧
      c.inputQueueCapacity ≠ 0 ∧ c.reaperInterval.nanos ≠ 0 ∧ c.reverseCallTimeout.nanos ≠ 0 := by
  constructor
  · intro h
    refine ⟨fun role text hset => ?_, h .inputQueueZero, h .reaperIntervalZero,
      h .reverseTimeoutZero⟩
    by_contra hnone
    exact h (.invalidPort role text) ⟨hset, not_exists.mp hnone⟩
  · rintro ⟨hports, hcapacity, hinterval, htimeout⟩ e hfault
    cases e with
    | invalidPort role text =>
      obtain ⟨n, hn⟩ := hports role text hfault.1
      exact hfault.2 n hn
    | inputQueueZero => exact hcapacity hfault
    | reaperIntervalZero => exact hinterval hfault
    | reverseTimeoutZero => exact htimeout hfault
    | threadSpawnFailed => exact hfault

end Config
end Switchboard
