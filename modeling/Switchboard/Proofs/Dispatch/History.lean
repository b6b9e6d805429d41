import Mathlib.Data.List.Induction
import Mathlib.Logic.ExistsUnique
import Switchboard.Dispatch.Router

/-!
# History — a router is what was registered

A router is made by registering one route after another. Everything it does can be told from
that history: a name is there if it was ever registered, it stands where it was registered
first, and it is served by the route that was registered last. `Last` names that route, and
`Refuses` the calls that the router turns away by itself, whatever the handlers would do.
-/

namespace Switchboard

namespace Route

/-- The handler that the route has for a stream. Only a server stream has a request. -/
def handler? (request : Bytes) : Route → Option Handler
  | unary _ => none
  | serverStream handler => some (handler request)
  | clientStream handler | bidi handler => some handler

/-- A route of the same shape that runs no handler of its own for unary calls. -/
def muted : Route → Route
  | unary _ => unary fun _ _ => .returned (.ok [])
  | serverStream handler => serverStream handler
  | clientStream handler => clientStream handler
  | bidi handler => bidi handler

theorem shape?_muted (route : Route) : route.muted.shape? = route.shape? := by
  cases route <;> rfl

theorem exists_handler? {route : Route} {shape : Shape} (h : route.shape? = some shape)
    (request : Bytes) : ∃ handler, route.handler? request = some handler := by
  cases route with
  | unary => cases h
  | serverStream | clientStream | bidi => exact ⟨_, rfl⟩

end Route

/-- Names with their routes, in the order in which they were registered. -/
abbrev Registrations := List (String × Route)

namespace Registrations

/-- The methods registered, in order, each as often as it was. -/
def names (history : Registrations) : List String := history.map (·.1)

/-- The route was registered under the name, and none was after it. -/
def Last (history : Registrations) (method : String) (route : Route) : Prop :=
  ∃ earlier later, history = earlier ++ (method, route) :: later ∧ method ∉ names later

/-- The same names were registered for the same shapes of call, with any handlers. -/
def Alike (history other : Registrations) : Prop :=
  other.map (fun p => (p.1, p.2.shape?)) = history.map fun p => (p.1, p.2.shape?)

variable {history other : Registrations} {method name : String} {route served : Route}

theorem names_concat (history : Registrations) (name : String) (route : Route) :
    names (history ++ [(name, route)]) = names history ++ [name] := by
  simp [names]

theorem not_last_nil : ¬ Last [] method route := by
  rintro ⟨earlier, later, hnil, -⟩
  simp at hnil

/-- Whatever was registered under a name is replaced by the next one. -/
theorem last_concat (history : Registrations) (name : String) (route : Route) :
    Last (history ++ [(name, route)]) method served ↔
      if name = method then served = route else Last history method served := by
  constructor
  · rintro ⟨earlier, later, hhistory, hlater⟩
    rcases List.eq_nil_or_concat later with rfl | ⟨most, final, rfl⟩
    · obtain ⟨rfl, hfinal⟩ := List.append_inj' hhistory rfl
      cases hfinal
      rw [if_pos rfl]
    · rw [List.concat_eq_append] at hhistory hlater
      rw [← List.cons_append, ← List.append_assoc] at hhistory
      obtain ⟨rfl, hfinal⟩ := List.append_inj' hhistory rfl
      obtain rfl := List.singleton_inj.mp hfinal
      rw [names_concat, List.mem_append, not_or, List.mem_singleton] at hlater
      rw [if_neg (Ne.symm hlater.2)]
      exact ⟨earlier, most, rfl, hlater.1⟩
  · split
    · next hname =>
      rintro rfl
      exact ⟨history, [], by rw [hname], List.not_mem_nil⟩
    · next hname =>
      rintro ⟨earlier, later, rfl, hlater⟩
      refine ⟨earlier, later ++ [(name, route)], by simp, ?_⟩
      rw [names_concat, List.mem_append, not_or, List.mem_singleton]
      exact ⟨hlater, Ne.symm hname⟩

theorem Alike.names (h : Alike history other) : names other = names history := by
  have hnames := congrArg (List.map Prod.fst) h
  simpa [Registrations.names, List.map_map, Function.comp_def] using hnames

/-- What was registered last under a name serves the same shape in a history like it. -/
theorem Alike.exists_last (h : Alike history other) (hlast : Last history method route) :
    ∃ route', Last other method route' ∧ route'.shape? = route.shape? := by
  obtain ⟨earlier, later, rfl, hlater⟩ := hlast
  rw [Alike, List.map_append, List.map_cons] at h
  obtain ⟨earlier', rest', rfl, -, hrest⟩ := List.map_eq_append_iff.mp h
  obtain ⟨⟨method', route'⟩, later', rfl, hroute, hlater'⟩ := List.map_eq_cons_iff.mp hrest
  obtain ⟨rfl, hshape⟩ := Prod.mk.inj hroute
  have hnames : Registrations.names later' = Registrations.names later := Alike.names hlater'
  exact ⟨route', ⟨earlier', later', rfl, hnames ▸ hlater⟩, hshape⟩

end Registrations

namespace Router

open Registrations

/-- The router that the registrations make of an empty one. -/
def registered (history : Registrations) : Router :=
  history.foldl (fun r (method, route) => r.register method route) {}

/-! ## One more registration -/

theorem methods_register (method : String) (route : Route) (r : Router) :
    (r.register method route).methods =
      if method ∈ r.methods then r.methods else r.methods ++ [method] := by
  unfold register
  split
  · simp only [methods, List.map_map]
    refine List.map_congr_left fun p _ => ?_
    by_cases hp : p.1 = method <;> simp [hp]
  · simp [methods]

theorem find?_eq_none_iff (name : String) (r : Router) :
    r.find? name = none ↔ name ∉ r.methods := by
  rw [find?, Option.map_eq_none_iff, List.find?_eq_none, methods, List.mem_map, not_exists]
  simp only [decide_eq_true_eq, not_and']
  exact forall_congr' fun p => ⟨fun h hname hmem => h hmem hname, fun h hmem hname => h hname hmem⟩

theorem find?_register (method name : String) (route : Route) (r : Router) :
    (r.register method route).find? name = if method = name then some route else r.find? name := by
  unfold register
  split
  · next hmem =>
    -- Replacing a route leaves the names, so a name is found in the place where it was.
    have hplace : (fun p : String × Route => decide (p.1 = name)) ∘
        (fun p => if p.1 = method then (method, route) else p) = fun p => decide (p.1 = name) := by
      funext p
      by_cases hp : p.1 = method <;> simp [hp]
    rw [find?, List.find?_map, hplace, find?]
    cases hfound : r.routes.find? (·.1 = name) with
    | none =>
      have hname : method ≠ name := by
        rintro rfl
        exact (find?_eq_none_iff method r).mp (by rw [find?, hfound, Option.map_none]) hmem
      rw [if_neg hname]
      rfl
    | some p =>
      obtain rfl : p.1 = name := by simpa using List.find?_some hfound
      by_cases hname : method = p.1
      · simp [hname]
      · simp [hname, Ne.symm hname]
  · next hmem =>
    rw [find?, List.find?_append, find?]
    by_cases hname : method = name
    · subst hname
      have hnone := Option.map_eq_none_iff.mp ((find?_eq_none_iff method r).mpr hmem)
      simp [hnone]
    · simp [hname]

/-! ## What a history makes of a router -/

variable {history other : Registrations} {method : String} {route : Route}

theorem registered_concat (history : Registrations) (method : String) (route : Route) :
    registered (history ++ [(method, route)]) = (registered history).register method route := by
  rw [registered, List.foldl_append]
  rfl

/-- A name stands where it was registered first. -/
theorem methods_registered (history : Registrations) :
    (registered history).methods = (names history).eraseDups := by
  induction history using List.reverseRecOn with
  | nil => rfl
  | append_singleton history p ih =>
    rw [registered_concat, methods_register, names_concat, List.eraseDups_append, ih]
    simp only [List.mem_eraseDups]
    by_cases hknown : p.1 ∈ names history
    · simp [hknown, List.removeAll]
    · simp [hknown, List.removeAll, List.eraseDups_cons]

theorem nodup_methods_registered (history : Registrations) :
    (registered history).methods.Nodup := by
  induction history using List.reverseRecOn with
  | nil => exact .nil
  | append_singleton history p ih =>
    rw [registered_concat, methods_register]
    split
    · exact ih
    · next hnew =>
      refine List.nodup_append.mpr ⟨ih, by simp, fun name hname other hother => ?_⟩
      rw [List.mem_singleton.mp hother]
      exact ne_of_mem_of_not_mem hname hnew

/-- A name is served by the route that was registered last. -/
theorem find?_registered (history : Registrations) (method : String) (route : Route) :
    (registered history).find? method = some route ↔ Last history method route := by
  induction history using List.reverseRecOn with
  | nil => exact iff_of_false nofun not_last_nil
  | append_singleton history p ih =>
    rw [registered_concat, find?_register, last_concat]
    by_cases hname : p.1 = method
    · rw [if_pos hname, if_pos hname, Option.some.injEq, eq_comm]
    · rw [if_neg hname, if_neg hname, ih]

theorem find?_registered_of_not_mem (h : method ∉ names history) :
    (registered history).find? method = none := by
  rw [find?_eq_none_iff, methods_registered, List.mem_eraseDups]
  exact h

theorem exists_last_of_mem (h : method ∈ names history) : ∃ route, Last history method route := by
  have hmem : method ∈ (registered history).methods := by
    rw [methods_registered, List.mem_eraseDups]
    exact h
  have hfound := mt (find?_eq_none_iff method _).mp (not_not_intro hmem)
  obtain ⟨route, hroute⟩ := Option.ne_none_iff_exists'.mp hfound
  exact ⟨route, (find?_registered history method route).mp hroute⟩

/-! ## Calls -/

variable {shape : Shape} {payload request : Bytes} {metadata : Metadata} {e : DispatchError}

theorem invoke_of_not_mem (h : method ∉ names history) :
    (registered history).invoke method payload metadata =
      .returned (.error (.methodNotFound method)) := by
  rw [invoke, find?_registered_of_not_mem h]

theorem openStream_of_not_mem (h : method ∉ names history) :
    (registered history).openStream shape method request =
      .returned (.error (.methodNotFound method)) := by
  unfold openStream
  rw [find?_registered_of_not_mem h]

theorem invoke_of_last {answer : Bytes → Metadata → Attempt Bytes}
    (h : Last history method (.unary answer)) :
    (registered history).invoke method payload metadata = answer payload metadata := by
  rw [invoke, (find?_registered _ _ _).mpr h]

theorem invoke_of_shape (h : Last history method route) (hshape : route.shape? ≠ none) :
    (registered history).invoke method payload metadata =
      .returned (.error (.wrongShape method)) := by
  rw [invoke, (find?_registered _ _ _).mpr h]
  cases route with
  | unary answer => exact absurd rfl hshape
  | serverStream | clientStream | bidi => rfl

theorem openStream_of_shape (h : Last history method route) (hshape : route.shape? ≠ some shape) :
    (registered history).openStream shape method request =
      .returned (.error (.wrongShape method)) := by
  unfold openStream
  rw [(find?_registered _ _ _).mpr h]
  exact if_pos hshape

theorem openStream_of_last {handler : Handler} (h : Last history method route)
    (hshape : route.shape? = some shape) (hhandler : route.handler? request = some handler) :
    (registered history).openStream shape method request = .returned (.ok handler) := by
  unfold openStream
  rw [(find?_registered _ _ _).mpr h]
  dsimp only
  rw [if_neg (not_not_intro hshape)]
  cases route with
  | unary => cases hhandler
  | serverStream | clientStream | bidi =>
    cases hhandler
    rfl

/-- A route without a shape is refused before its handler is looked for, so opening a stream
never breaks off by itself. -/
theorem openStream_ne_panicked (r : Router) (shape : Shape) (method : String) (request : Bytes)
    (panic : Panic) : r.openStream shape method request ≠ .panicked panic := by
  unfold openStream
  split
  · nofun
  · next route hroute =>
    split
    · nofun
    · next hshape =>
      cases route with
      | unary answer => exact absurd (of_not_not hshape) nofun
      | serverStream | clientStream | bidi => nofun

/-! ## Refusals -/

/-- The router turns a call away by itself: the answer is the same for all payloads and whatever
the handlers would do. The kind of call is the shape of stream to open, none for a unary call. -/
def Refuses (history : Registrations) (method : String) (e : DispatchError) :
    Option Shape → Prop
  | none => ∀ other, Alike history other → ∀ payload metadata,
    (registered other).invoke method payload metadata = .returned (.error e)
  | some shape => ∀ other, Alike history other → ∀ request,
    (registered other).openStream shape method request = .returned (.error e)

theorem refuses_of_not_mem (h : method ∉ names history) (kind : Option Shape) :
    Refuses history method (.methodNotFound method) kind := by
  cases kind with
  | none => exact fun other halike _ _ => invoke_of_not_mem (halike.names ▸ h)
  | some shape => exact fun other halike _ => openStream_of_not_mem (halike.names ▸ h)

theorem refuses_of_shape (h : Last history method route) {kind : Option Shape}
    (hshape : route.shape? ≠ kind) : Refuses history method (.wrongShape method) kind := by
  cases kind with
  | none =>
    intro other halike payload metadata
    obtain ⟨route', hlast, hsame⟩ := halike.exists_last h
    exact invoke_of_shape hlast (hsame ▸ hshape)
  | some shape =>
    intro other halike request
    obtain ⟨route', hlast, hsame⟩ := halike.exists_last h
    exact openStream_of_shape hlast (hsame ▸ hshape)

theorem alike_refl (history : Registrations) : Alike history history := rfl

theorem alike_muted (history : Registrations) :
    Alike history (history.map fun p => (p.1, p.2.muted)) := by
  rw [Alike, List.map_map]
  exact List.map_congr_left fun p _ => by rw [Function.comp_apply, Route.shape?_muted]

theorem last_muted (h : Last history method route) :
    Last (history.map fun p => (p.1, p.2.muted)) method route.muted := by
  obtain ⟨earlier, later, rfl, hlater⟩ := h
  refine ⟨_, _, by rw [List.map_append, List.map_cons], ?_⟩
  simpa [names] using hlater

/-- A route does not refuse the calls of its own kind. -/
theorem not_refuses (h : Last history method route) (e : DispatchError) :
    ¬ Refuses history method e route.shape? := by
  intro hrefuses
  cases hshape : route.shape? with
  | none =>
    rw [hshape] at hrefuses
    cases route with
    | unary answer =>
      have herror := hrefuses _ (alike_muted history) [] {}
      rw [invoke_of_last (last_muted h)] at herror
      cases herror
    | serverStream | clientStream | bidi => cases hshape
  | some shape =>
    rw [hshape] at hrefuses
    obtain ⟨handler, hhandler⟩ := Route.exists_handler? hshape []
    have herror := hrefuses _ (alike_refl history) []
    rw [openStream_of_last h hshape hhandler] at herror
    cases herror

/-- No call is refused for two reasons. -/
theorem eq_of_refuses {e e' : DispatchError} {kind : Option Shape}
    (h : Refuses history method e kind) (h' : Refuses history method e' kind) : e = e' := by
  cases kind with
  | none =>
    have hsame := (h _ (alike_refl history) [] {}).symm.trans (h' _ (alike_refl history) [] {})
    cases hsame
    rfl
  | some shape =>
    have hsame := (h _ (alike_refl history) []).symm.trans (h' _ (alike_refl history) [])
    cases hsame
    rfl

theorem refuses_methodNotFound_iff (history : Registrations) (method : String)
    (kind : Option Shape) :
    Refuses history method (.methodNotFound method) kind ↔ method ∉ names history := by
  refine ⟨fun hrefuses hmem => ?_, fun h => refuses_of_not_mem h kind⟩
  obtain ⟨route, hlast⟩ := exists_last_of_mem hmem
  by_cases hshape : route.shape? = kind
  · exact not_refuses hlast _ (hshape ▸ hrefuses)
  · cases eq_of_refuses hrefuses (refuses_of_shape hlast hshape)

theorem refuses_wrongShape_iff (history : Registrations) (method : String)
    (kind : Option Shape) :
    Refuses history method (.wrongShape method) kind ↔
      ∃ route, Last history method route ∧ route.shape? ≠ kind := by
  refine ⟨fun hrefuses => ?_, fun ⟨route, hlast, hshape⟩ => refuses_of_shape hlast hshape⟩
  by_cases hmem : method ∈ names history
  · obtain ⟨route, hlast⟩ := exists_last_of_mem hmem
    exact ⟨route, hlast, fun hshape => not_refuses hlast _ (hshape ▸ hrefuses)⟩
  · cases eq_of_refuses hrefuses (refuses_of_not_mem hmem kind)

/-- What is answered with an error to a unary call is a refusal, or the handler's own answer. -/
theorem invoke_eq_error_iff :
    (registered history).invoke method payload metadata = .returned (.error e) ↔
      Refuses history method e none ∨
        ∃ answer, Last history method (.unary answer) ∧
          answer payload metadata = .returned (.error e) := by
  constructor
  · intro herror
    by_cases hmem : method ∈ names history
    · obtain ⟨route, hlast⟩ := exists_last_of_mem hmem
      by_cases hshape : route.shape? = none
      · cases route with
        | unary answer => exact .inr ⟨answer, hlast, (invoke_of_last hlast).symm.trans herror⟩
        | serverStream | clientStream | bidi => cases hshape
      · have hwrong := (invoke_of_shape hlast hshape).symm.trans herror
        cases hwrong
        exact .inl (refuses_of_shape hlast hshape)
    · have hunknown := (invoke_of_not_mem hmem).symm.trans herror
      cases hunknown
      exact .inl (refuses_of_not_mem hmem none)
  · rintro (hrefuses | ⟨answer, hlast, hanswer⟩)
    · exact hrefuses _ (alike_refl history) payload metadata
    · rw [invoke_of_last hlast, hanswer]

/-- What is answered with an error to the opening of a stream is a refusal. -/
theorem openStream_eq_error_iff :
    (registered history).openStream shape method request = .returned (.error e) ↔
      Refuses history method e (some shape) := by
  refine ⟨fun herror => ?_, fun hrefuses => hrefuses _ (alike_refl history) request⟩
  by_cases hmem : method ∈ names history
  · obtain ⟨route, hlast⟩ := exists_last_of_mem hmem
    by_cases hshape : route.shape? = some shape
    · obtain ⟨handler, hhandler⟩ := Route.exists_handler? hshape request
      cases (openStream_of_last hlast hshape hhandler).symm.trans herror
    · cases (openStream_of_shape hlast hshape).symm.trans herror
      exact refuses_of_shape hlast hshape
  · cases (openStream_of_not_mem hmem).symm.trans herror
    exact refuses_of_not_mem hmem _

/-- **A router is the history of what was registered.** Its methods are the names in the order in
which they were registered first, each once.

The route that was registered last under a name serves it: a unary handler gets the payload and
the metadata of the call, the handler of a server stream the request that the stream is opened
with, and other handlers nothing. All that the router does by itself is to refuse: a name that
was never registered, as not found, and a call of another kind than the last route's, as of the
wrong shape. So a name that was registered is refused to all kinds of call but one. Opening a
stream fails only by such a refusal, a unary call also if its handler says so; and opening never
breaks off. -/
theorem served_by_last_registration (history : Registrations) :
    let r := registered history
    r.methods = (names history).eraseDups ∧ r.methods.Nodup ∧
    r.size = (names history).eraseDups.length ∧
    (∀ method answer, Last history method (.unary answer) →
      ∀ payload metadata, r.invoke method payload metadata = answer payload metadata) ∧
    (∀ method handler, Last history method (.serverStream handler) →
      ∀ request, r.openStream .serverStream method request = .returned (.ok (handler request))) ∧
    (∀ method handler, Last history method (.clientStream handler) →
      ∀ request, r.openStream .clientStream method request = .returned (.ok handler)) ∧
    (∀ method handler, Last history method (.bidi handler) →
      ∀ request, r.openStream .bidi method request = .returned (.ok handler)) ∧
    (∀ method kind,
      (Refuses history method (.methodNotFound method) kind ↔ method ∉ names history) ∧
      (Refuses history method (.wrongShape method) kind ↔
        ∃ route, Last history method route ∧ route.shape? ≠ kind)) ∧
    (∀ method ∈ names history,
      ∃! kind, ¬ Refuses history method (.wrongShape method) kind) ∧
    (∀ method payload metadata e,
      r.invoke method payload metadata = .returned (.error e) ↔
        Refuses history method e none ∨
          ∃ answer, Last history method (.unary answer) ∧
            answer payload metadata = .returned (.error e)) ∧
    (∀ method shape request e,
      r.openStream shape method request = .returned (.error e) ↔
        Refuses history method e (some shape)) ∧
    ∀ shape method request panic, r.openStream shape method request ≠ .panicked panic := by
  intro r
  refine ⟨methods_registered history, nodup_methods_registered history, ?_,
    fun _ _ hlast _ _ => invoke_of_last hlast,
    fun _ _ hlast _ => openStream_of_last hlast rfl rfl,
    fun _ _ hlast _ => openStream_of_last hlast rfl rfl,
    fun _ _ hlast _ => openStream_of_last hlast rfl rfl,
    fun method kind => ⟨refuses_methodNotFound_iff history method kind,
      refuses_wrongShape_iff history method kind⟩,
    fun method hmem => ?_, fun _ _ _ _ => invoke_eq_error_iff,
    fun _ _ _ _ => openStream_eq_error_iff, openStream_ne_panicked r⟩
  · have hsize : r.size = r.methods.length := (List.length_map _).symm
    rw [hsize, methods_registered]
  · obtain ⟨route, hlast⟩ := exists_last_of_mem hmem
    refine ⟨route.shape?, not_refuses hlast _, fun kind hserved => ?_⟩
    by_contra hkind
    exact hserved (refuses_of_shape hlast (Ne.symm hkind))

/-- A name that is registered again keeps its place and is served in another way. -/
example :
    let r := registered [("a", .unary fun _ _ => .returned (.ok [1])), ("b", .bidi {}),
      ("a", .serverStream fun request => { request })]
    r.methods = ["a", "b"] ∧
      r.invoke "a" [] {} = .returned (.error (.wrongShape "a")) ∧
      r.openStream .serverStream "a" [7] = .returned (.ok { request := [7] }) :=
  ⟨rfl, rfl, rfl⟩

end Router
end Switchboard
