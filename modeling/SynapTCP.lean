import SynapTCP.Socket.Assigning
import SynapTCP.Socket.Comparing
import SynapTCP.Socket.Ports
import SynapTCP.Socket.Runs
import SynapTCP.Socket.Senders
import SynapTCP.Frame.Callbacks
import SynapTCP.Frame.Presence
import SynapTCP.Frame.Recovery
import SynapTCP.Frame.Resync
import SynapTCP.Client.Reconnecting
import SynapTCP.Client.Status
import SynapTCP.Client.Timeouts
import SynapTCP.Endpoint.Ownership
import SynapTCP.Locks.ClosedPort
import SynapTCP.Server.Binding
import SynapTCP.Server.Capacity
import SynapTCP.Server.Destruction
import SynapTCP.Server.Dispatch
import SynapTCP.Server.Rotation
import SynapTCP.Server.Untimed
import SynapTCP.Threads.Selecting
import SynapTCP.Threads.Starting
import SynapTCP.Data.Pointwise
import SynapTCP.Frame.Decoder
import SynapTCP.Frame.Decoding
import SynapTCP.Frame.Messages
import SynapTCP.Frame.Shipments
import SynapTCP.Data.Crc
import SynapTCP.Example.Base16
import SynapTCP.Example.Bursts
import SynapTCP.Example.Exchange
import SynapTCP.Data.Contest
import SynapTCP.Data.Ledger
import SynapTCP.Data.Script
import SynapTCP.Data.SharedCell
import SynapTCP.Example.Sessions
import SynapTCP.Example.Threads
import SynapTCP.Locks.Ascending
import SynapTCP.Locks.Contention
import SynapTCP.Server.Custody
import SynapTCP.Server.Reports
import SynapTCP.Server.Starving
import SynapTCP.Socket.Scripts
import SynapTCP.Threads.Unheard
