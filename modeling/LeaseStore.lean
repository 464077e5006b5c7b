import LeaseStore.Config.Text
import LeaseStore.Conformance
import LeaseStore.Document.Recorder
import LeaseStore.Fixture
import LeaseStore.Fleet
import LeaseStore.Json.Printer
import LeaseStore.Json.Reader
import LeaseStore.Proofs.Store.Combine
import LeaseStore.Proofs.Store.Shelves
import LeaseStore.Proofs.Store.Memory
import LeaseStore.Proofs.Store.Traffic
import LeaseStore.Proofs.Store.Documents
import LeaseStore.Proofs.Store.Tables
import LeaseStore.Proofs.Store.Fleet
import LeaseStore.Proofs.Calls.Path
import LeaseStore.Proofs.Calls.Request
import LeaseStore.Proofs.Calls.Conduct
import LeaseStore.Proofs.Interleaving.Deed
import LeaseStore.Proofs.Interleaving.Pool
import LeaseStore.Proofs.Interleaving.Trace
import LeaseStore.Proofs.Interleaving.Tokens
import LeaseStore.Proofs.Interleaving.Cleanup
import LeaseStore.Proofs.Interleaving.Leases
import LeaseStore.Proofs.Agreement.Backends
import LeaseStore.Proofs.Agreement.Renaming
import LeaseStore.Proofs.Agreement.Twins
import LeaseStore.Proofs.Agreement.Mirror
import LeaseStore.Proofs.Agreement.Sessions
import LeaseStore.Proofs.Agreement.Bulk
import LeaseStore.Proofs.Calls.Binding
import LeaseStore.Proofs.Calls.Contention
import LeaseStore.Proofs.Interleaving.Race
import LeaseStore.Proofs.Store.Outages
import LeaseStore.Proofs.Store.Expiry
import LeaseStore.Proofs.Store.Fate
import LeaseStore.Proofs.Runs.Session
import LeaseStore.Proofs.Runs.Reading
import LeaseStore.Proofs.Runs.Writing
import LeaseStore.Proofs.Runs.Locking
import LeaseStore.Proofs.Runs.Reach
import LeaseStore.Proofs.Runs.Failures
import LeaseStore.Proofs.Runs.Revival
import LeaseStore.Proofs.Runs.Accord
import LeaseStore.Proofs.Runs.Akin
import LeaseStore.Proofs.Runs.Residue
import LeaseStore.Proofs.Store.Stamps
import LeaseStore.Proofs.Runs.Roundtrip
import LeaseStore.Proofs.Runs.Contacts
import LeaseStore.Proofs.Runs.Refusal
import LeaseStore.Proofs.Runs.Lifecycle
import LeaseStore.Proofs.Runs.Ledger
import LeaseStore.Proofs.Runs.Metering
import LeaseStore.Proofs.Runs.Decisions
import LeaseStore.Proofs.Runs.Monitored
import LeaseStore.Proofs.Runs.Waves
import LeaseStore.Proofs.Runs.Sifting
import LeaseStore.Proofs.Isolation.Focus
import LeaseStore.Proofs.Isolation.Abreast
import LeaseStore.Proofs.Isolation.Requests
import LeaseStore.Proofs.Isolation.Projection
import LeaseStore.Proofs.Text.Trimming
import LeaseStore.Proofs.Connection.Grammar
import LeaseStore.Proofs.Connection.Restyling
import LeaseStore.Proofs.Runs.Trouble
import LeaseStore.Proofs.Runs.Narrowing
import LeaseStore.Proofs.Runs.Rounds
import LeaseStore.Proofs.Runs.Patience
import LeaseStore.Proofs.Store.Snags
import LeaseStore.Proofs.Runs.Setbacks
import LeaseStore.Proofs.Runs.OneShot
import LeaseStore.Proofs.Connection.Secrecy
import LeaseStore.Proofs.Formats.Fields
import LeaseStore.Proofs.Formats.Decoding
import LeaseStore.Proofs.Formats.Sketches
import LeaseStore.Proofs.Roundtrip.Lexemes
import LeaseStore.Proofs.Roundtrip.Durations
import LeaseStore.Proofs.Roundtrip.Configs
import LeaseStore.Record.Change
import LeaseStore.Proofs.Rules.Deadlines
import LeaseStore.Proofs.Rules.Delays
import LeaseStore.Proofs.Rules.Tenure
