import Switchboard.Dispatch.Dispatcher

/-!
# Router — a dispatcher by table

Each route has a method's name and a handler of one shape. Registering a name again
replaces its handler and keeps its place among the methods.
-/

namespace Switchboard

/-- A handler with the shape of call that it serves. -/
inductive Route where
  | unary (answer : Bytes → Metadata → Attempt Bytes)
  | serverStream (handler : Bytes → Handler)
  | clientStream (handler : Handler)
  | bidi (handler : Handler)

/-- The shape of stream that a route serves, none for a unary one. -/
def Route.shape? : Route → Option Shape
  | unary _ => none
  | serverStream _ => some .serverStream
  | clientStream _ => some .clientStream
  | bidi _ => some .bidi

/-- Routes in the order in which their names were first registered, each name once. -/
structure Router where
  routes : List (String × Route) := []

namespace Router

/-- The registered names, in the order of their first registration. -/
def methods (r : Router) : List String := r.routes.map (·.1)

/-- How many methods there are, whatever their shapes. -/
def size (r : Router) : Nat := r.routes.length

/-- The route of a method. -/
def find? (method : String) (r : Router) : Option Route :=
  (r.routes.find? (·.1 = method)).map (·.2)

/-- Registers a route: in the place of the one under the name, else at the end. -/
def register (method : String) (route : Route) (r : Router) : Router :=
  if method ∈ r.methods then
    { routes := r.routes.map fun p => if p.1 = method then (method, route) else p }
  else { routes := r.routes ++ [(method, route)] }

/-- Answers a unary call. A method that is there for streams is there in the wrong shape. -/
def invoke (r : Router) (method : String) (payload : Bytes) (metadata : Metadata) :
    Attempt Bytes :=
  match r.find? method with
  | none => .returned (.error (.methodNotFound method))
  | some (.unary answer) => answer payload metadata
  | some _ => .returned (.error (.wrongShape method))

/-- The text of the break that a unary route would be if a stream were opened on it. -/
def shapeless : String :=
  "internal error: entered unreachable code: unary routes have no stream shape"

/-- Gives the handler for a stream, if the route serves its shape. Only a server stream has a
request. -/
def openStream (r : Router) (shape : Shape) (method : String) (request : Bytes) :
    Attempt Handler :=
  match r.find? method with
  | none => .returned (.error (.methodNotFound method))
  | some route =>
    if route.shape? ≠ some shape then .returned (.error (.wrongShape method))
    else match route with
      | .serverStream handler => .returned (.ok (handler request))
      | .clientStream handler | .bidi handler => .returned (.ok handler)
      -- A unary route serves no shape and was refused, so it does not come to this.
      | .unary _ => .panicked (.message shapeless)

/-- The router as a dispatcher. -/
def dispatcher (r : Router) : Dispatcher :=
  { invoke := r.invoke, openStream := r.openStream }

end Router
end Switchboard
