import HttpNetworkRelay.Asyncio.Channel
import HttpNetworkRelay.Messages

/-!
# The ends of the tunnel

What the users of the program see: the bytes at stdin and stdout of an access client, and at the
sockets of the targets. `upstreamEnd` and `downstreamEnd` read the passages of the two channels of a
connection off a record of them.
-/

namespace HttpNetworkRelay

open Asyncio Python

/-- What happens at the ends of the tunnel: at stdin and stdout of the access client, and at the
target of a connection. -/
inductive TunnelEnd
  /-- Bytes are read from stdin. -/
  | stdin (data : Bytes)
  /-- Bytes are written to stdout. -/
  | stdout (data : Bytes)
  /-- Bytes are read from the target. -/
  | target (connection_id : ConnectionId) (data : Bytes)
  /-- Bytes are written to the target. -/
  | wrote (connection_id : ConnectionId) (data : Bytes)
  deriving DecidableEq, Repr

/-- The ends of the stream from stdin to the target of a connection. -/
def upstreamEnd (connection_id : ConnectionId) : TunnelEnd → Option (Passage UInt8)
  | .stdin data => some (.given data)
  | .wrote c data => if c = connection_id then some (.handed data) else none
  | _ => none

/-- The ends of the stream from the target of a connection to stdout. -/
def downstreamEnd (connection_id : ConnectionId) : TunnelEnd → Option (Passage UInt8)
  | .target c data => if c = connection_id then some (.given data) else none
  | .stdout data => some (.handed data)
  | _ => none

end HttpNetworkRelay
