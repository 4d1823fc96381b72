import HttpNetworkRelay.Asyncio.Machine
import HttpNetworkRelay.Asyncio.Coroutine
import HttpNetworkRelay.Asyncio.Sync
import HttpNetworkRelay.Python.Base64
import HttpNetworkRelay.Python.Hex
import HttpNetworkRelay.Messages
import HttpNetworkRelay.Relay.State
import HttpNetworkRelay.Relay.Coroutines
import HttpNetworkRelay.Relay.Tasks
import HttpNetworkRelay.Relay.Specs
import HttpNetworkRelay.Relay.AgentRules
import HttpNetworkRelay.Relay.SessionRules
import HttpNetworkRelay.Relay.Rules
import HttpNetworkRelay.Relay.Evolution
import HttpNetworkRelay.Relay.Frames
import HttpNetworkRelay.Relay.Effects
import HttpNetworkRelay.Relay.Closes
import HttpNetworkRelay.Relay.SessionFrames
import HttpNetworkRelay.Relay.Registry
import HttpNetworkRelay.Relay.Ownership
import HttpNetworkRelay.Relay.Cleanup
import HttpNetworkRelay.Relay.Attach
import HttpNetworkRelay.Relay.Sends
import HttpNetworkRelay.Relay.Framing
import HttpNetworkRelay.Relay.Answers
import HttpNetworkRelay.Relay.SessionEnd
import HttpNetworkRelay.Relay.Opens
import HttpNetworkRelay.Asyncio.Pipe
import HttpNetworkRelay.Relay.Stream
import HttpNetworkRelay.Relay.Drain
import HttpNetworkRelay.Asyncio.Ready
import HttpNetworkRelay.Relay.SendBuffer
import HttpNetworkRelay.Asyncio.LockTable
import HttpNetworkRelay.Relay.Locks
import HttpNetworkRelay.Relay.RecvBuffer
import HttpNetworkRelay.Relay.Serial
import HttpNetworkRelay.Relay.CompleteTeardown
import HttpNetworkRelay.Relay.Successor
import HttpNetworkRelay.Relay.Rejected
import HttpNetworkRelay.Asyncio.Trace
import HttpNetworkRelay.Relay.Correlated
import HttpNetworkRelay.Asyncio.Simulation
import HttpNetworkRelay.Relay.AccessClients
import HttpNetworkRelay.Relay.Blind
import HttpNetworkRelay.Agent.EdgeAgent
import HttpNetworkRelay.Agent.Rules
import HttpNetworkRelay.Agent.Sockets
import HttpNetworkRelay.Agent.Containment
import HttpNetworkRelay.Relay.Upstream
import HttpNetworkRelay.Agent.Stream
import HttpNetworkRelay.Link.Link
import HttpNetworkRelay.Link.Streams
import HttpNetworkRelay.Link.Flow
import HttpNetworkRelay.BinaryFrames
import HttpNetworkRelay.Link.HotPath
import HttpNetworkRelay.Relay.AsyncRead
import HttpNetworkRelay.Relay.SendRules
import HttpNetworkRelay.Relay.SendStream
import HttpNetworkRelay.Agent.OpenSockets
import HttpNetworkRelay.Asyncio.Fairness
import HttpNetworkRelay.Relay.CloseCalls
import HttpNetworkRelay.Relay.LockEntries
import HttpNetworkRelay.Link.Peers
import HttpNetworkRelay.Link.Departures
import HttpNetworkRelay.Link.CloseOrder
import HttpNetworkRelay.Link.Entries
import HttpNetworkRelay.Link.Agreement
import HttpNetworkRelay.Asyncio.Channel
import HttpNetworkRelay.Tunnel.Ends
import HttpNetworkRelay.Client.AccessClient
import HttpNetworkRelay.Client.Rules
import HttpNetworkRelay.Client.Stream
import HttpNetworkRelay.Relay.Greeting
import HttpNetworkRelay.Relay.SessionInput
import HttpNetworkRelay.Agent.Sent
import HttpNetworkRelay.Tunnel.AgentEnds
import HttpNetworkRelay.Tunnel.Names
import HttpNetworkRelay.Tunnel.Tunnel
import HttpNetworkRelay.Tunnel.Upward
import HttpNetworkRelay.Tunnel.Downward
import HttpNetworkRelay.Tunnel.Compatible
import HttpNetworkRelay.Relay.Targets
import HttpNetworkRelay.Relay.ClientFraming
import HttpNetworkRelay.Tunnel.Targets
import HttpNetworkRelay.Tunnel.Framing
import HttpNetworkRelay.Agent.Reconnect
import HttpNetworkRelay.Agent.StartMessages
import HttpNetworkRelay.Relay.KeepAlive
import HttpNetworkRelay.Wire.Texts
import HttpNetworkRelay.Wire.Endpoints
import HttpNetworkRelay.Asyncio.LockOrder
import HttpNetworkRelay.Relay.UserSends
import HttpNetworkRelay.Link.UserStreams
