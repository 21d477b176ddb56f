import TieredLedger.Deflate.Codebook
import TieredLedger.LedgerError
import TieredLedger.Time.Instant

/-! The failures of off-chain stores and of tiering, by cause, with their texts. -/
namespace TieredLedger

/-- What a failure of a store or of tiering concerns. A failure of the ledger keeps its own kind. -/
inductive StoreError.Kind
  | notFound
  | writeFailed
  | readFailed
  | backend
  | accessDenied
  | compression
  | outOfRange
  | inconsistentState
  | configuration
  | ledger (kind : LedgerError.Kind)
deriving DecidableEq, Repr

inductive FileError
  | notFound
  | notADirectory
  | isADirectory
  | alreadyExists
  | nameTooLong
  | zeroInName
  | notText
deriving DecidableEq, Repr

def FileError.message : FileError → String
  | notFound => "No such file or directory (os error 2)"
  | alreadyExists => "File exists (os error 17)"
  | notADirectory => "Not a directory (os error 20)"
  | isADirectory => "Is a directory (os error 21)"
  | nameTooLong => "File name too long (os error 36)"
  | zeroInName => "file name contained an unexpected NUL byte"
  | notText => "stream did not contain valid UTF-8"

inductive StoreError
  /-- Nothing is stored under a handle. -/
  | unknownHandle (handle : String)
  /-- The ledger has no block of a number. -/
  | unknownBlock (number : UInt64)
  /-- A store was told to refuse writing. -/
  | injectedWrite
  /-- A store was told to refuse reading. -/
  | injectedRead
  /-- A directory could not be made; the path is quoted. -/
  | createDirectory (path : String) (cause : FileError)
  /-- A data file could not be made. -/
  | createFile (cause : FileError)
  /-- A data file could not be read. -/
  | readFile (cause : FileError)
  /-- A file could not be removed; the path is quoted. -/
  | removeFile (path : String) (cause : FileError)
  /-- A description could not be read. -/
  | readDescription (cause : FileError)
  /-- A description is not one. -/
  | parseDescription
  /-- A description could not be written. -/
  | writeDescription (cause : FileError)
  /-- The descriptions could not be listed. -/
  | listDescriptions (cause : FileError)
  /-- A sealed blob is not text. -/
  | sealedText (fault : Utf8.Fault)
  /-- A sealed blob was asked for without a password. -/
  | passwordNeeded (handle : String)
  /-- A sealed blob was asked for with another password. -/
  | wrongPassword (handle : String)
  /-- Stored text is not base64. -/
  | encoding (fault : Base64.Fault)
  /-- A compressed stream cannot be read. -/
  | stream (fault : Deflate.Fault)
  /-- A payload off the chain is too large for the estimate of its compressed size. -/
  | unestimable (number : UInt64) (tier : String) (size maximum : UInt64)
  /-- The sum of the payload sizes exceeds 64 bits. -/
  | totalOverflow (number size : UInt64)
  /-- The sum of the estimates exceeds 64 bits. -/
  | estimateOverflow (number size : UInt64)
  /-- The sum of the payload sizes of a tier exceeds 64 bits. -/
  | tierOverflow (number size : UInt64)
  /-- A block stopped being tracked while it was moved. -/
  | untracked (number : UInt64)
  /-- A block counts as off the chain, but nothing says where its payload is. -/
  | missingReference (number : UInt64) (tier : String)
  /-- The first age threshold is zero. -/
  | zeroHotThreshold
  /-- The age thresholds do not increase. -/
  | unorderedThresholds (hot warm cold : Span)
  /-- A search may give no results. -/
  | zeroResults
  /-- The store password is set, but empty. -/
  | emptyStorePassword
  /-- A failure of the ledger. -/
  | ledger (error : LedgerError)
  /-- A failure reported by a store from outside. -/
  | reported (kind : StoreError.Kind) (text : String)
deriving DecidableEq, Repr

namespace StoreError

def kind : StoreError → Kind
  | unknownHandle _ | unknownBlock _ => .notFound
  | injectedWrite | createFile _ => .writeFailed
  | injectedRead | readFile _ | sealedText _ => .readFailed
  | createDirectory _ _ | removeFile _ _ | readDescription _ | parseDescription | writeDescription _
  | listDescriptions _ => .backend
  | passwordNeeded _ | wrongPassword _ => .accessDenied
  | encoding _ | stream _ => .compression
  | unestimable _ _ _ _ | totalOverflow _ _ | estimateOverflow _ _ | tierOverflow _ _ => .outOfRange
  | untracked _ | missingReference _ _ => .inconsistentState
  | zeroHotThreshold | unorderedThresholds _ _ _ | zeroResults | emptyStorePassword => .configuration
  | ledger error => .ledger error.kind
  | reported kind _ => kind

def Kind.heading : Kind → String
  | notFound => "Not found"
  | writeFailed => "Write failed"
  | readFailed => "Read failed"
  | backend => "Backend error"
  | accessDenied => "Access denied"
  | compression => "Compression error"
  | outOfRange => "Value out of range"
  | inconsistentState => "Inconsistent state"
  | configuration => "Configuration error"
  | ledger kind => kind.heading

def streamText : Deflate.Fault → String
  | .corrupt => "corrupt deflate stream"
  | .incomplete => "incomplete deflate stream"

def overflowText (what : String) (number size : UInt64) : String :=
  s!"{what} overflowed while adding block #{number} ({size} bytes)"

def text : StoreError → String
  | unknownHandle handle => handle
  | unknownBlock number => s!"block #{number}"
  | injectedWrite => "injected write failure"
  | injectedRead => "injected read failure"
  | createDirectory path cause => "Failed to create directory " ++ path ++ ": " ++ cause.message
  | createFile cause => "Failed to create file: " ++ cause.message
  | readFile cause => "Failed to read file: " ++ cause.message
  | removeFile path cause => "Failed to remove " ++ path ++ ": " ++ cause.message
  | readDescription cause => "Failed to read metadata: " ++ cause.message
  | parseDescription => "Failed to parse metadata: "
  | writeDescription cause => "Failed to write metadata: " ++ cause.message
  | listDescriptions cause => "Failed to list metadata: " ++ cause.message
  | sealedText fault => "Sealed blob is not text: " ++ fault.message
  | passwordNeeded handle => handle ++ " requires a password"
  | wrongPassword handle => "wrong password for " ++ handle
  | encoding fault => "invalid base64: " ++ fault.message
  | stream fault => "invalid deflate stream: " ++ streamText fault
  | unestimable number tier size maximum =>
    s!"block #{number} in {tier} tier has data size {size} bytes, above the estimable maximum of {maximum}"
  | totalOverflow number size => overflowText "total size" number size
  | estimateOverflow number size => overflowText "compressed estimate" number size
  | tierOverflow number size => overflowText "tier size" number size
  | untracked number => s!"block #{number} stopped being tracked during migration"
  | missingReference number tier => s!"block #{number} is tracked in {tier} tier but has no off-chain reference"
  | zeroHotThreshold => "hot threshold must be positive"
  | unorderedThresholds hot warm cold =>
    "thresholds must increase: hot " ++ hot.text ++ ", warm " ++ warm.text ++ ", cold " ++ cold.text
  | zeroResults => "default_max_results must be positive"
  | emptyStorePassword => "store password must not be empty when set"
  | ledger error => error.text
  | reported _ text => text

def message (e : StoreError) : String := e.kind.heading ++ ": " ++ e.text

end StoreError

end TieredLedger
