import ContactPlan.Address.Ipv4
import ContactPlan.Address.Ipv6
import ContactPlan.Address.Network
import ContactPlan.Agenda.Basic
import ContactPlan.Agenda.Run
import ContactPlan.Agenda.Timer
import ContactPlan.Asn
import ContactPlan.Cbor.Fault
import ContactPlan.Cbor.Header
import ContactPlan.Cbor.Reader
import ContactPlan.Cbor.Segment
import ContactPlan.Cbor.Skip
import ContactPlan.Command.Arguments
import ContactPlan.Command.Outcome
import ContactPlan.Contact.Archive
import ContactPlan.Contact.Basic
import ContactPlan.Contact.Event
import ContactPlan.Contact.Row
import ContactPlan.Contact.Set
import ContactPlan.Contact.Sheet
import ContactPlan.Disk
import ContactPlan.Failure
import ContactPlan.Instant.Calendar
import ContactPlan.Instant.Reader
import ContactPlan.Instant.Stamp
import ContactPlan.Link.Crossing
import ContactPlan.Link.Neighbor
import ContactPlan.Link.Router
import ContactPlan.Link.Splice
import ContactPlan.Main
import ContactPlan.Proofs.Address.Ipv4
import ContactPlan.Proofs.Agenda.Division
import ContactPlan.Proofs.Agenda.Fire
import ContactPlan.Proofs.Agenda.Keys
import ContactPlan.Proofs.Agenda.Ledger
import ContactPlan.Proofs.Agenda.Matching
import ContactPlan.Proofs.Agenda.Prompt
import ContactPlan.Proofs.Agenda.Registration
import ContactPlan.Proofs.Agenda.Session
import ContactPlan.Proofs.Agenda.Sound
import ContactPlan.Proofs.Agenda.Timing
import ContactPlan.Proofs.Agenda.Tracking
import ContactPlan.Proofs.Agenda.Watch
import ContactPlan.Proofs.Asn.Grammar
import ContactPlan.Proofs.Asn.Notation
import ContactPlan.Proofs.Asn.Path
import ContactPlan.Proofs.Cbor.Handles
import ContactPlan.Proofs.Cbor.Header
import ContactPlan.Proofs.Cbor.Outcomes
import ContactPlan.Proofs.Cbor.Payment
import ContactPlan.Proofs.Cbor.Reads
import ContactPlan.Proofs.Cbor.Skip
import ContactPlan.Proofs.Cbor.Streams
import ContactPlan.Proofs.Cbor.Strings
import ContactPlan.Proofs.Cbor.WellFormed
import ContactPlan.Proofs.Command.Views
import ContactPlan.Proofs.Contact.Algebra
import ContactPlan.Proofs.Contact.Archive
import ContactPlan.Proofs.Contact.Capacity
import ContactPlan.Proofs.Contact.Classification
import ContactPlan.Proofs.Contact.Comparison
import ContactPlan.Proofs.Contact.Declaration
import ContactPlan.Proofs.Contact.Density
import ContactPlan.Proofs.Contact.Rendering
import ContactPlan.Proofs.Contact.Roster
import ContactPlan.Proofs.Contact.Same
import ContactPlan.Proofs.Contact.Set
import ContactPlan.Proofs.Contact.Streaming
import ContactPlan.Proofs.Disk
import ContactPlan.Proofs.Instant.Calendar
import ContactPlan.Proofs.Instant.Reader
import ContactPlan.Proofs.Link.Candidates
import ContactPlan.Proofs.Link.Closings
import ContactPlan.Proofs.Link.Crossing
import ContactPlan.Proofs.Link.Distinct
import ContactPlan.Proofs.Link.Handling
import ContactPlan.Proofs.Link.Loops
import ContactPlan.Proofs.Link.NextHop
import ContactPlan.Proofs.Link.Openings
import ContactPlan.Proofs.Link.Order
import ContactPlan.Proofs.Link.Overlap
import ContactPlan.Proofs.Link.Repetition
import ContactPlan.Proofs.Link.Reversal
import ContactPlan.Proofs.Link.Run
import ContactPlan.Proofs.Route.Change
import ContactPlan.Proofs.Route.Contents
import ContactPlan.Proofs.Route.Course
import ContactPlan.Proofs.Route.Filing
import ContactPlan.Proofs.Route.Upkeep
import ContactPlan.Proofs.Server.Lifetime
import ContactPlan.Proofs.Server.Passage
import ContactPlan.Proofs.Server.Reload
import ContactPlan.Proofs.Server.Run
import ContactPlan.Proofs.Server.Service
import ContactPlan.Proofs.Server.Startup
import ContactPlan.Proofs.Settings.Declaration
import ContactPlan.Proofs.Settings.Reading
import ContactPlan.Proofs.Settings.Redeclaration
import ContactPlan.Proofs.Store.Ingest
import ContactPlan.Proofs.Store.Record
import ContactPlan.Proofs.Store.Resaving
import ContactPlan.Proofs.Text.BigEndian
import ContactPlan.Proofs.Text.Decimal
import ContactPlan.Proofs.Text.Hex
import ContactPlan.Proofs.Text.Stops
import ContactPlan.Proofs.Text.Unsigned
import ContactPlan.Proofs.Text.Utf8
import ContactPlan.Proofs.Toml.Bounds
import ContactPlan.Proofs.Toml.Document
import ContactPlan.Proofs.Toml.Line
import ContactPlan.Route.Attributes
import ContactPlan.Route.Table
import ContactPlan.Server.Basic
import ContactPlan.Server.Daemon
import ContactPlan.Settings.Basic
import ContactPlan.Settings.Draft
import ContactPlan.Store.Basic
import ContactPlan.Store.Record
import ContactPlan.Text.BigEndian
import ContactPlan.Text.Binary64
import ContactPlan.Text.Blank
import ContactPlan.Text.Decimal
import ContactPlan.Text.Fields
import ContactPlan.Text.Hex
import ContactPlan.Text.Utf8
import ContactPlan.Toml.Document
import ContactPlan.Toml.Element
import ContactPlan.Toml.Numeral
import ContactPlan.Toml.Quoted
import ContactPlan.Toml.Value
