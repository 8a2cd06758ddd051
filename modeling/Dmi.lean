import Dmi.Main
import Dmi.Proofs.Layout.Defaults
import Dmi.Proofs.Layout.Areas
import Dmi.Proofs.Table.RoundTrip
import Dmi.Proofs.Layout.Leftover
import Dmi.Proofs.Record.Cut
import Dmi.Proofs.Body.Growth
import Dmi.Proofs.Layout.Each
import Dmi.Proofs.Layout.Plain
import Dmi.Proofs.Record.RoundTrip
import Dmi.Proofs.EntryPoint.Checksum
import Dmi.Proofs.EntryPoint.Image
import Dmi.Proofs.EntryPoint.Acceptance
import Dmi.Proofs.EntryPoint.RoundTrip
import Dmi.Proofs.Layout.Failure
import Dmi.Proofs.Registry.Inventory
import Dmi.Proofs.Body.Operations
import Dmi.Proofs.Record.Framing
import Dmi.Proofs.Table.Reader
import Dmi.Proofs.Layout.Strictness
import Dmi.Proofs.Record.Strictness
import Dmi.Proofs.Snapshot.Replay
import Dmi.Proofs.Layout.Cut
import Dmi.Proofs.Body.Spans
import Dmi.Proofs.Layout.Spans
import Dmi.Proofs.Snapshot.Views
import Dmi.Proofs.Layout.Typed
import Dmi.Proofs.Record.Answer
import Dmi.Proofs.Record.Meaning
import Dmi.Proofs.Snapshot.Redump
import Dmi.Proofs.Table.Composition
import Dmi.Proofs.CommandLine.Outcome
import Dmi.Proofs.Layout.Extent
import Dmi.Proofs.Layout.Complete
import Dmi.Proofs.Layout.Capacity
import Dmi.Proofs.Record.Capacity
import Dmi.Proofs.Body.Refusals
import Dmi.Proofs.Body.Contents
import Dmi.Proofs.Layout.Verbatim
import Dmi.Proofs.Record.Verbatim
import Dmi.Proofs.Layout.Places
import Dmi.Proofs.Record.Definition
import Dmi.Proofs.Registry.History
import Dmi.Proofs.TypeFilter.Grammar
import Dmi.Proofs.TypeFilter.Union
import Dmi.Proofs.Layout.Addresses
import Dmi.Proofs.Layout.Lists
import Dmi.Proofs.Layout.Paths
import Dmi.Proofs.Record.Agreement
import Dmi.Proofs.Record.Sizes
import Dmi.Proofs.Structure.Rows
