import BrailleDisplay.Main
import BrailleDisplay.Channel.Memory
import BrailleDisplay.Simulator.Bench
import BrailleDisplay.Simulator.HidSystem
import BrailleDisplay.Proofs.Frame.Recognition
import BrailleDisplay.Proofs.Frame.HostCodec
import BrailleDisplay.Proofs.Frame.FrameStream
import BrailleDisplay.Proofs.Bounded
import BrailleDisplay.Proofs.Channel.Journal
import BrailleDisplay.Proofs.Frame.LinkInvariant
import BrailleDisplay.Proofs.Frame.LinkStream
import BrailleDisplay.Proofs.Channel.Attempts
import BrailleDisplay.Proofs.Frame.LinkExchange
import BrailleDisplay.Proofs.Display.Polling
import BrailleDisplay.Proofs.Display.DisplayInvariant
import BrailleDisplay.Proofs.Display.Custodian
import BrailleDisplay.Proofs.Display.Custody
import BrailleDisplay.Proofs.Display.Delivery
import BrailleDisplay.Proofs.Display.Probing
import BrailleDisplay.Proofs.Profile.Accepted
import BrailleDisplay.Proofs.Display.Asking
import BrailleDisplay.Proofs.Display.BringUp
import BrailleDisplay.Proofs.Display.Operation
import BrailleDisplay.Proofs.Hid.Handed
import BrailleDisplay.Proofs.Display.Suppression
import BrailleDisplay.Proofs.Display.Lifetime
import BrailleDisplay.Proofs.Frame.LinkClosing
import BrailleDisplay.Proofs.CommandLine.Custody
import BrailleDisplay.Proofs.Text.Utf8
import BrailleDisplay.Proofs.Hid.Opening
import BrailleDisplay.Proofs.Display.Buffers
import BrailleDisplay.Proofs.Channel.Simulation
import BrailleDisplay.Proofs.Frame.LinkSimulation
import BrailleDisplay.Proofs.Display.DisplaySimulation
import BrailleDisplay.Proofs.Display.SessionSimulation
import BrailleDisplay.Proofs.Channel.Printing
import BrailleDisplay.Proofs.Text.Hex
import BrailleDisplay.Proofs.Text.Fields
import BrailleDisplay.Proofs.Channel.TrafficLines
import BrailleDisplay.Proofs.Display.Transparency
import BrailleDisplay.Proofs.Cell.Wiring
import BrailleDisplay.Proofs.Profile.Validity
import BrailleDisplay.Proofs.Text.ByteOrder
import BrailleDisplay.Proofs.Config.Overlay
import BrailleDisplay.Proofs.Channel.Upkeep
import BrailleDisplay.Proofs.Display.SessionUpkeep
import BrailleDisplay.Proofs.CommandLine.Writing
import BrailleDisplay.Proofs.Display.Overhearing
import BrailleDisplay.Proofs.CommandLine.Counting
import BrailleDisplay.Proofs.Hid.Matching
import BrailleDisplay.Proofs.Frame.Resynchronisation
import BrailleDisplay.Proofs.Frame.BufferReuse
import BrailleDisplay.Proofs.Frame.LinkBacklog
import BrailleDisplay.Proofs.Display.Draining
import BrailleDisplay.Proofs.Display.Echoes
import BrailleDisplay.Proofs.Frame.HostDamage
import BrailleDisplay.Proofs.Display.Inquiries
import BrailleDisplay.Proofs.Display.Punctuality
import BrailleDisplay.Proofs.Frame.ReportDamage
import BrailleDisplay.Proofs.Hid.Conveyance
import BrailleDisplay.Proofs.Text.Beginnings
import BrailleDisplay.Proofs.Profile.Selection
import BrailleDisplay.Proofs.Channel.LocatorText
import BrailleDisplay.Proofs.Cell.Driving
import BrailleDisplay.Proofs.Cell.Dots
import BrailleDisplay.Proofs.Cell.Spelling
import BrailleDisplay.Proofs.Key.Labels
import BrailleDisplay.Proofs.Channel.Bookkeeping
import BrailleDisplay.Proofs.Channel.Supply
import BrailleDisplay.Proofs.Display.Patience
