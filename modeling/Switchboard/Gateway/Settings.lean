import Switchboard.Config
import Switchboard.Gateway.Argument

/-!
# Settings — a configuration as it comes through the C interface
-/

namespace Switchboard.Gateway

/-- The record that a server is started with. -/
structure Settings where
  storagePath : CText := none
  cachePath : CText := none
  engineSocketPath : CText := none
  engineTcpPort : CText := none
  viewSocketPath : CText := none
  viewTcpPort : CText := none
  token : CText := none
  -- One enables the cache, and no other number does.
  enableCache : Int := 0
  -- The idle timeout in milliseconds, none if it is not positive.
  streamTimeoutMillis : Int := 0
  deriving DecidableEq, Repr

/-- The configuration, if every text is well-formed. What the record does not set is as
usual. -/
def Settings.config (s : Settings) : Except Status Config := do
  let storagePath ← s.storagePath.optional
  let cachePath ← s.cachePath.optional
  let engineSocket ← s.engineSocketPath.optional
  let enginePort ← s.engineTcpPort.optional
  let viewSocket ← s.viewSocketPath.optional
  let viewPort ← s.viewTcpPort.optional
  let token ← s.token.optional
  let config : Config :=
    { storagePath, cachePath, token
      engine := { socketPath := engineSocket, tcpPort := enginePort }
      view := { socketPath := viewSocket, tcpPort := viewPort }
      enableCache := s.enableCache == 1 }
  return config.withStreamTimeoutMillis s.streamTimeoutMillis

end Switchboard.Gateway
