import Multicast.Kernel.Scripted
import Multicast.Main
import Multicast.Proofs.Address.RoundTrip
import Multicast.Proofs.Channel.ArrivalOrder
import Multicast.Proofs.Channel.Assignment
import Multicast.Proofs.Channel.Removal
import Multicast.Proofs.Daemon.LastGood
import Multicast.Proofs.Daemon.Release
import Multicast.Proofs.Interface.Ordered
import Multicast.Proofs.Kernel.Encoding
import Multicast.Proofs.Manager.Agreement
import Multicast.Proofs.Manager.Application
import Multicast.Proofs.Manager.Building
import Multicast.Proofs.Manager.Forwarding
import Multicast.Proofs.Manager.Quiet
import Multicast.Proofs.Manager.Refusal
import Multicast.Proofs.Outbound.Settings
import Multicast.Proofs.Registry.Cascade
import Multicast.Proofs.Registry.Shadow
import Multicast.Proofs.Registry.Spelling
import Multicast.Proofs.Registry.Wildcard
import Multicast.Proofs.Slots.Tenure
