import TieredLedger.Compression
import TieredLedger.Json.Printer
import TieredLedger.Json.Reader
import TieredLedger.KeyDerivation
import TieredLedger.Ledger
import TieredLedger.Logging.Filter
import TieredLedger.Settings
import TieredLedger.Statistics
import TieredLedger.Store.Either
import TieredLedger.Tiering.Task
import TieredLedger.Proofs.Term
import TieredLedger.Proofs.Text.Words
import TieredLedger.Proofs.Search.Reference
import TieredLedger.Proofs.Ledger.Findability
import TieredLedger.Proofs.Ledger.Commitment
import TieredLedger.Proofs.Bytes.Base64
import TieredLedger.Proofs.Deflate.Piece
import TieredLedger.Proofs.Deflate.Stream
import TieredLedger.Proofs.Compression
import TieredLedger.Proofs.Store.Handle
import TieredLedger.Proofs.Store.Memory
import TieredLedger.Proofs.Tiering.Move
import TieredLedger.Proofs.Tiering.Retention
import TieredLedger.Proofs.Search.Secrecy
import TieredLedger.Proofs.Ledger.Growth
import TieredLedger.Proofs.Tiering.Atomicity
import TieredLedger.Proofs.Tiering.Exclusion
import TieredLedger.Proofs.Time
import TieredLedger.Proofs.Tracker
import TieredLedger.Proofs.Tiering.Sweep
import TieredLedger.Proofs.Tiering.Cooling
import TieredLedger.Proofs.Tiering.Deed
import TieredLedger.Proofs.Tiering.ServiceUse
import TieredLedger.Proofs.Tiering.Chronicle
import TieredLedger.Proofs.Store.Interchange
import TieredLedger.Proofs.Store.Renewal
import TieredLedger.Proofs.Store.Password
import TieredLedger.Proofs.Store.Custody
import TieredLedger.Proofs.Token.Canonical
import TieredLedger.Proofs.Token.Sealing
import TieredLedger.Proofs.Bytes
import TieredLedger.Proofs.Ledger.Layering
import TieredLedger.Store.Pending
import TieredLedger.Proofs.Store.Pending
import TieredLedger.Proofs.Store.Health
import TieredLedger.Proofs.Store.Removal
import TieredLedger.Proofs.Statistics
import TieredLedger.Proofs.Store.Deposits
import TieredLedger.Proofs.Tiering.LiveCopy
import TieredLedger.Proofs.KeyDerivation
import TieredLedger.Proofs.Keyword
import TieredLedger.Proofs.Search.Field
import TieredLedger.Proofs.Ledger.Binding
import TieredLedger.Proofs.Visibility.Reading
import TieredLedger.Proofs.Policy
import TieredLedger.Proofs.Settings
import TieredLedger.Proofs.Term.Agreement
import TieredLedger.Proofs.Block
import TieredLedger.Proofs.Store.Naming
import TieredLedger.Proofs.Store.Confinement
