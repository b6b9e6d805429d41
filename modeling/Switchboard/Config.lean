import Switchboard.Text.Numeral
import Switchboard.Time

/-!
# Config — what a server is started with

Paths, sockets and the token are carried along and not looked at. The rest is checked by
`validate`, in a fixed order, so that of several faults the first is told.
-/

namespace Switchboard

/-- The two roles that an endpoint can have. -/
inductive Role where
  | engine
  | view
  deriving DecidableEq, Repr

/-- The name of an endpoint in messages. -/
def Role.text : Role → String
  | engine => "engine"
  | view => "view"

/-- Why a server was not started. -/
inductive ConfigError where
  | invalidPort (endpoint : Role) (value : String)
  | inputQueueZero
  | reaperIntervalZero
  | reverseTimeoutZero
  | threadSpawnFailed (reason : String)
  deriving DecidableEq, Repr

/-- The text of an error, with the offending value as it was given. -/
def ConfigError.message : ConfigError → String
  | invalidPort endpoint value =>
    endpoint.text ++ " tcp port '" ++ value ++ "' is not a valid port number"
  | inputQueueZero => "input_queue_capacity must be at least 1"
  | reaperIntervalZero => "reaper_interval must be non-zero"
  | reverseTimeoutZero => "reverse_call_timeout must be non-zero"
  | threadSpawnFailed reason => "thread spawn failed: " ++ reason

/-- A local socket, a port, both or neither. -/
structure Endpoint where
  socketPath : Option String := none
  tcpPort : Option String := none
  deriving DecidableEq, Repr, Inhabited

namespace Endpoint

/-- Reads a port number, of at most sixteen bits. -/
def readPort (text : String) : Option Nat := Numeral.readUpTo? Numeral.max16 text.toList

/-- The port's number, if one was given and is valid. -/
def port (e : Endpoint) : Option Nat := e.tcpPort.bind readPort

/-- An endpoint may do without a port, but a port that is given must be one. -/
def validate (role : Role) (e : Endpoint) : Except ConfigError Unit :=
  match e.tcpPort with
  | none => .ok ()
  | some text => if (readPort text).isSome then .ok () else .error (.invalidPort role text)

end Endpoint

/-- What a server is started with. -/
structure Config where
  storagePath : Option String := none
  cachePath : Option String := none
  engine : Endpoint := {}
  view : Endpoint := {}
  token : Option String := none
  enableCache : Bool := false
  -- How long a session may be idle; `none` is for ever.
  streamTimeout : Option Duration := none
  reverseCallTimeout : Duration := Duration.ofSeconds 10
  reaperInterval : Duration := Duration.ofMillis 50
  inputQueueCapacity : Nat := 100
  deriving DecidableEq, Repr, Inhabited

namespace Config

/-- The first fault, if there is one. -/
def validate (c : Config) : Except ConfigError Unit := do
  c.engine.validate .engine
  c.view.validate .view
  if c.inputQueueCapacity = 0 then .error .inputQueueZero
  else if c.reaperInterval.nanos = 0 then .error .reaperIntervalZero
  else if c.reverseCallTimeout.nanos = 0 then .error .reverseTimeoutZero
  else .ok ()

/-- Whether the server keeps a cache: it is enabled and has a place. -/
def cacheActive (c : Config) : Bool :=
  c.enableCache && c.cachePath.any (· ≠ "")

/-- Sets the idle timeout in milliseconds; a number that is not positive is none. -/
def withStreamTimeoutMillis (ms : Int) (c : Config) : Config :=
  { c with streamTimeout := if 0 < ms then some (Duration.ofMillis ms.toNat) else none }

end Config
end Switchboard
