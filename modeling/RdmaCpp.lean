import RdmaCpp.Lib.Traced
import RdmaCpp.Lib.Monitor
import RdmaCpp.Lib.Ledger
import RdmaCpp.Lib.Twice
import RdmaCpp.Lib.Network
import RdmaCpp.Lib.Scatter
import RdmaCpp.Lib.SharedQueue
import RdmaCpp.Lib.Scripts
import RdmaCpp.Lib.Settled
import RdmaCpp.Lib.Stream
import RdmaCpp.Lib.Locked
import RdmaCpp.Verbs
import RdmaCpp.Transport.Types
import RdmaCpp.Transport.Setup
import RdmaCpp.Transport.Resources
import RdmaCpp.Transport.Events
import RdmaCpp.Transport.Released
import RdmaCpp.Transport.Created
import RdmaCpp.Transport.Started
import RdmaCpp.Transport.Handled
import RdmaCpp.Transport.Outstanding
import RdmaCpp.Transport.Books
import RdmaCpp.Transport.LiveHandles
import RdmaCpp.Transport.Leftovers
import RdmaCpp.Transport.Connected
import RdmaCpp.Transport.Isolation
import RdmaCpp.Transport.EventsOwned
import RdmaCpp.Transport.FullyCreated
import RdmaCpp.Transport.Undone
import RdmaCpp.Transport.Overrun
import RdmaCpp.Transport.Alike
import RdmaCpp.Transport.Garbage
import RdmaCpp.Transport.Handshake
import RdmaCpp.Transport.Reads
import RdmaCpp.Transport.ReadsRan
import RdmaCpp.Transport.Scattered
import RdmaCpp.Transport.References
import RdmaCpp.Transport.Outlives
import RdmaCpp.Transport.SideBySide
import RdmaCpp.Transport.TornDown
import RdmaCpp.Transport.Destroyed
import RdmaCpp.Transport.Lifetime
import RdmaCpp.Transport.GivenUp
import RdmaCpp.Transport.HalfOpen
import RdmaCpp.Connection.Types
import RdmaCpp.Connection.Connect
import RdmaCpp.Connection.Acknowledged
import RdmaCpp.Connection.Resolved
import RdmaCpp.Connection.ClientRan
import RdmaCpp.Connection.Accepted
import RdmaCpp.Connection.ServerRan
import RdmaCpp.Connection.CleanedUp
import RdmaCpp.Connection.Retried
import RdmaCpp.Connection.Agreed
import RdmaCpp.Connection.Finished
import RdmaCpp.Connection.InTurn
import RdmaCpp.Interface.ReadAll
import RdmaCpp.Interface.Dispatch
import RdmaCpp.Gf.Init
import RdmaCpp.Gf.EventHandler
import RdmaCpp.Device.DevInfo
