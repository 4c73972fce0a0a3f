import MiniRemoteDesktop.Relay.Failover.Barrier
import MiniRemoteDesktop.Relay.Failover.Peers
import MiniRemoteDesktop.Buffer.Pool
import MiniRemoteDesktop.Session.Activity
import MiniRemoteDesktop.Session.Registration
import MiniRemoteDesktop.Control.Codec
import MiniRemoteDesktop.Quic.Bounds
import MiniRemoteDesktop.Quic.Roundtrip
import MiniRemoteDesktop.Wan.Retry
import MiniRemoteDesktop.Quic.FecRuns
import MiniRemoteDesktop.Counter.Compact
import MiniRemoteDesktop.Agent.Answers
import MiniRemoteDesktop.Agent.Warrant
import MiniRemoteDesktop.Agent.Delivery
import MiniRemoteDesktop.Turn.Stream
import MiniRemoteDesktop.Files.Transfer
import MiniRemoteDesktop.Render.Worker
import MiniRemoteDesktop.Control.WanDelivery
import MiniRemoteDesktop.Store.Reopen
import MiniRemoteDesktop.Store.Tamper
import MiniRemoteDesktop.Rtp.Vvc
import MiniRemoteDesktop.Rtp.H264
import MiniRemoteDesktop.Relay.Capacity
import MiniRemoteDesktop.Input.Release
import MiniRemoteDesktop.Media.Adaptation
import MiniRemoteDesktop.Media.Ladder
import MiniRemoteDesktop.Browser.Keys
import MiniRemoteDesktop.Browser.Lifecycle
import MiniRemoteDesktop.Registry.Replay
import MiniRemoteDesktop.Registry.Tokens
import MiniRemoteDesktop.Agent.CommandDigest
import MiniRemoteDesktop.Lan.FirstPairing
import MiniRemoteDesktop.Quic.FecHeaders
import MiniRemoteDesktop.Quic.Nack
import MiniRemoteDesktop.Registry.Availability
import MiniRemoteDesktop.Relay.CandidateFingerprint
import MiniRemoteDesktop.Relay.DirectoryJson
import MiniRemoteDesktop.Relay.Score
import MiniRemoteDesktop.Files.UnderRoot
import MiniRemoteDesktop.Browser.Attempts
import MiniRemoteDesktop.Relay.Response
