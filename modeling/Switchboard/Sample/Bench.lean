import Switchboard.Sample.Scripted

/-!
# Bench — a router and payloads to measure with
-/

namespace Switchboard.Sample

/-- Sends chunks of sixty-four equal bytes, as many as are requested. -/
def burst (request : Bytes) : Handler :=
  { script := strictSends
      ((List.range (requested request)).map fun i => List.replicate 64 (UInt8.ofNat i))
    request }

/-- A router that echoes, answers always the same, and bursts. -/
def bench : Router :=
  ((({} : Router).register "/bench.Echo/Unary" (.unary fun payload _ => .returned (.ok payload))
    ).register "/bench.Fixed/Unary" (.unary fun _ _ => .returned (.ok (List.replicate 16 0xAB)))
    ).register "/bench.Burst/Stream" (.serverStream burst)

/-- One step of the generator. -/
def shift (x : UInt64) : UInt64 :=
  let x := x ^^^ (x <<< 13)
  let x := x ^^^ (x >>> 7)
  x ^^^ (x <<< 17)

/-- So many bytes, from a state of the generator. -/
def payloadFrom (x : UInt64) : Nat → Bytes
  | 0 => []
  | n + 1 => (shift x).toUInt8 :: payloadFrom (shift x) n

/-- A payload of so many bytes, settled by the seed. The register starts odd, since at zero
it would stay there. -/
def payload (length : Nat) (seed : UInt64) : Bytes := payloadFrom (seed ||| 1) length

end Switchboard.Sample
