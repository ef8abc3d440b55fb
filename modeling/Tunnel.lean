import Tunnel.Main
import Tunnel.Client.Scripted
import Tunnel.Server.Session
import Tunnel.Proofs.ClientToRemote
import Tunnel.Proofs.ConcurrentClose
import Tunnel.Proofs.Config.Overrides
import Tunnel.Proofs.Config.RoundTrip
import Tunnel.Proofs.Counters
import Tunnel.Proofs.Crashes
import Tunnel.Proofs.EventTable
import Tunnel.Proofs.Incoming
import Tunnel.Proofs.Keeping
import Tunnel.Proofs.LateDial
import Tunnel.Proofs.Link.Buffering
import Tunnel.Proofs.Link.Script
import Tunnel.Proofs.LostChunks
import Tunnel.Proofs.Overlap
import Tunnel.Proofs.PumpCourse
import Tunnel.Proofs.PumpFailure
import Tunnel.Proofs.Query
import Tunnel.Proofs.RemoteToClient
import Tunnel.Proofs.Retry
import Tunnel.Proofs.Stages
import Tunnel.Proofs.StalledReplay
import Tunnel.Proofs.Streams
import Tunnel.Proofs.Termination
import Tunnel.Proofs.WebSocket.Reader
import Tunnel.Proofs.WebSocket.Writer
