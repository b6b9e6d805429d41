import Switchboard.Dispatch.Router

/-!
# Scripted — a router with one method for each kind of behaviour
-/

namespace Switchboard.Sample

/-- A text as a payload. -/
def bytes (s : String) : Bytes := Utf8.encode s

/-- Sends that end the handler if one fails. -/
def strictSends (payloads : List Bytes) : List Instruction :=
  payloads.map fun p => { act := .send p, strict := true }

/-- As many as the first byte of a request says, none for an empty request. -/
def requested (request : Bytes) : Nat := (request.headD 0).toNat

/-- Answers with the timeout in milliseconds, empty without one. -/
def deadline (m : Metadata) : Bytes :=
  match m.timeout with
  | some d => bytes (Numeral.digits d.millis)
  | none => []

/-- Sends the one-byte chunks 0, 1, 2 and so on, as many as are requested. -/
def countUp (request : Bytes) : Handler :=
  { script := strictSends ((List.range (requested request)).map fun i => [UInt8.ofNat i])
    request }

/-- Sends one chunk between a header and a trailer. -/
def annotated (request : Bytes) : Handler :=
  { script :=
      [{ act := .header "x-fixture" "annotated" }, { act := .trailer "x-status" "ok" }] ++
        strictSends [bytes "body"]
    request }

/-- Sends all chunks received as one. -/
def concat : Handler := { script := [{ act := .collect }] }

/-- Sends back each chunk as it comes. -/
def chat : Handler := { script := [{ act := .echo }] }

/-- Breaks at once. -/
def breakOff (request : Bytes) : Handler :=
  { script := [{ act := .panic (.message "scripted stream panic") }], request }

/-- The methods, one for each kind of behaviour. -/
def scriptedRoutes : List (String × Route) :=
  [ ("ping", .unary fun _ _ => .returned (.ok (bytes "pong"))),
    ("/test.Echo/Unary", .unary fun payload _ => .returned (.ok payload)),
    ("/test.Echo/Empty", .unary fun _ _ => .returned (.ok [])),
    ("/test.Fail/Unary", .unary fun _ _ => .returned (.error (.failed "scripted failure"))),
    ("/test.Meta/Deadline", .unary fun _ m => .returned (.ok (deadline m))),
    ("/test.Count/Up", .serverStream countUp),
    ("/test.Concat/Collect", .clientStream concat),
    ("/test.Echo/Chat", .bidi chat),
    ("/test.Panic/Stream", .serverStream breakOff),
    ("/test.Meta/Annotated", .serverStream annotated) ]

/-- The router with all of them. -/
def scripted : Router :=
  scriptedRoutes.foldl (fun r (method, route) => r.register method route) {}

end Switchboard.Sample
