import SelectiveRepeat.Foundations.Alteration
import SelectiveRepeat.Foundations.ByteOrder
import SelectiveRepeat.Foundations.Carrier
import SelectiveRepeat.Foundations.Channel
import SelectiveRepeat.Foundations.Crc32
import SelectiveRepeat.Foundations.Distinct
import SelectiveRepeat.Foundations.HeapOrder
import SelectiveRepeat.Foundations.Loops
import SelectiveRepeat.Foundations.Machine
import SelectiveRepeat.Foundations.Memory
import SelectiveRepeat.Foundations.Observer
import SelectiveRepeat.Foundations.Slots
import SelectiveRepeat.Foundations.Stdio
import SelectiveRepeat.LinkSim.Carriage
import SelectiveRepeat.LinkSim.Comparisons
import SelectiveRepeat.LinkSim.Delivery
import SelectiveRepeat.LinkSim.Fifo
import SelectiveRepeat.LinkSim.Integrity
import SelectiveRepeat.LinkSim.Link
import SelectiveRepeat.LinkSim.MinQueue
import SelectiveRepeat.LinkSim.Parties
import SelectiveRepeat.LinkSim.Passage
import SelectiveRepeat.LinkSim.PriorityQueue
import SelectiveRepeat.LinkSim.Schedule
import SelectiveRepeat.LinkSim.Through
import SelectiveRepeat.Packet.Acceptance
import SelectiveRepeat.Packet.Basic
import SelectiveRepeat.Packet.Capacity
import SelectiveRepeat.Packet.Codec
import SelectiveRepeat.Packet.Corruption
import SelectiveRepeat.Packet.Datagram
import SelectiveRepeat.Packet.Reuse
import SelectiveRepeat.Packet.RoundTrip
import SelectiveRepeat.Packet.Setters
import SelectiveRepeat.Packet.Truncation
import SelectiveRepeat.Receiver.Acknowledgement
import SelectiveRepeat.Receiver.Buffer
import SelectiveRepeat.Receiver.Circular
import SelectiveRepeat.Receiver.Corruption
import SelectiveRepeat.Receiver.Draining
import SelectiveRepeat.Receiver.Duplicate
import SelectiveRepeat.Receiver.InOrder
import SelectiveRepeat.Receiver.Loop
import SelectiveRepeat.Receiver.Order
import SelectiveRepeat.Receiver.Repeat
import SelectiveRepeat.Receiver.Step
import SelectiveRepeat.Receiver.Stream
import SelectiveRepeat.Receiver.Tail
import SelectiveRepeat.Receiver.Termination
import SelectiveRepeat.Receiver.Window
import SelectiveRepeat.Receiver.Written
import SelectiveRepeat.Records.Basic
import SelectiveRepeat.Records.Footer
import SelectiveRepeat.Records.Reading
import SelectiveRepeat.Records.RoundTrip
import SelectiveRepeat.Records.Stream
import SelectiveRepeat.Sender.Bookkeeping
import SelectiveRepeat.Sender.Cumulative
import SelectiveRepeat.Sender.Datagrams
import SelectiveRepeat.Sender.Expiry
import SelectiveRepeat.Sender.FastRetransmit
import SelectiveRepeat.Sender.Loop
import SelectiveRepeat.Sender.Marker
import SelectiveRepeat.Sender.Overrun
import SelectiveRepeat.Sender.Quiet
import SelectiveRepeat.Sender.Settled
import SelectiveRepeat.Sender.Shrinking
import SelectiveRepeat.Sender.Step
import SelectiveRepeat.Sender.Tracking
import SelectiveRepeat.Sender.Traffic
import SelectiveRepeat.System.Acquaintance
import SelectiveRepeat.System.Completion
import SelectiveRepeat.System.Cut
import SelectiveRepeat.System.EndToEnd
import SelectiveRepeat.System.Ending
import SelectiveRepeat.System.Flow
import SelectiveRepeat.System.Issued
import SelectiveRepeat.System.Network
import SelectiveRepeat.System.Origin
import SelectiveRepeat.System.Refinement
import SelectiveRepeat.System.Relay
import SelectiveRepeat.System.Relayed
import SelectiveRepeat.System.Rounds
import SelectiveRepeat.System.Sequence
import SelectiveRepeat.System.SequencedTransfer
import SelectiveRepeat.System.Served
import SelectiveRepeat.System.Shrinking
import SelectiveRepeat.System.Transfer
import SelectiveRepeat.Transport.Acknowledgement
import SelectiveRepeat.Transport.Basic
