import TieredLedger.Logging
import TieredLedger.Policy
import TieredLedger.Search
import TieredLedger.Text.Number

/-! Settings of the whole program, as environment variables or as JSON. -/
namespace TieredLedger

/-- Where payloads go that leave the chain, and the password that seals them. -/
structure StoreSettings where
  basePath : String
  password : Option String
deriving DecidableEq, Repr

structure SearchSettings where
  maxResults : Nat
deriving DecidableEq, Repr

structure Settings where
  policy : Policy
  store : StoreSettings
  search : SearchSettings
  log : LogSettings
deriving DecidableEq, Repr

def StoreSettings.standard : StoreSettings := ⟨"./strata-offchain", none⟩

def SearchSettings.standard : SearchSettings := ⟨50⟩

def SearchSettings.query (s : SearchSettings) (terms : List String) : Search.Query := ⟨terms, none, s.maxResults⟩

namespace Settings

def standard : Settings := ⟨.standard, .standard, .standard, .standard⟩

instance : Inhabited Settings := ⟨standard⟩

def word? (s : String) : Option UInt64 := (Text.number? UInt64.size (Text.trim s)).map UInt64.ofNat

def days? (s : String) : Option Span := (Text.number? UInt32.size (Text.trim s)).map fun n => .ofDays (UInt32.ofNat n)

def isYes (s : String) : Bool :=
  let s := Text.lowercase (Text.trim s)
  s = "true" || s = "1"

/-- The settings that variables ask for. A variable that is unset, or whose text is no number where one is needed,
leaves its setting as it is. -/
def ofLookup (lookup : String → Option String) : Settings where
  policy := {
    hotThreshold := ((lookup "STRATA_HOT_THRESHOLD_DAYS").bind days?).getD Policy.standard.hotThreshold
    warmThreshold := ((lookup "STRATA_WARM_THRESHOLD_DAYS").bind days?).getD Policy.standard.warmThreshold
    coldThreshold := ((lookup "STRATA_COLD_THRESHOLD_DAYS").bind days?).getD Policy.standard.coldThreshold
    sizeThreshold := ((lookup "STRATA_SIZE_THRESHOLD_BYTES").bind word?).getD Policy.standard.sizeThreshold
    accessThreshold := ((lookup "STRATA_ACCESS_COUNT_THRESHOLD").bind word?).getD Policy.standard.accessThreshold
    compressOnCold := ((lookup "STRATA_COMPRESS_ON_COLD").map isYes).getD Policy.standard.compressOnCold
    autoTiering := ((lookup "STRATA_AUTO_TIERING").map isYes).getD Policy.standard.autoTiering }
  store := {
    basePath := (lookup "STRATA_STORE_PATH").getD StoreSettings.standard.basePath
    password := lookup "STRATA_STORE_PASSWORD" }
  search := {
    maxResults := ((lookup "STRATA_SEARCH_MAX_RESULTS").bind fun s => Text.number? UInt64.size (Text.trim s)).getD
      SearchSettings.standard.maxResults }
  log := {
    LogSettings.standard with
    level := ((lookup "STRATA_LOG_LEVEL").bind LogLevel.parse?).getD LogSettings.standard.level
    format := ((lookup "STRATA_LOG_FORMAT").bind LogFormat.parse?).getD LogSettings.standard.format }

def validate (s : Settings) : Except StoreError Unit := do
  s.policy.validate
  if s.search.maxResults = 0 then throw .zeroResults
  if s.store.password = some "" then throw .emptyStorePassword

def pathNames (path : String) : List (List Char) :=
  if path.isEmpty then []
  else
    let names := Text.pieces (· = '/') path.toList
    names.take 1 ++ (names.drop 1).filter fun name => !(name.isEmpty || name == ['.'])

/-- Whether settings are those used when nothing is set, the place of the store being told by the names along it. -/
def isStandard (s : Settings) : Bool :=
  let place := standard.store.basePath
  pathNames s.store.basePath == pathNames place && { s with store := { s.store with basePath := place } } == standard

def toJson (s : Settings) : Json :=
  .record [("policy", s.policy.toJson),
    ("store", .record [("base_path", .text s.store.basePath), ("password", .option .text s.store.password)]),
    ("search", .record [("default_max_results", .natural s.search.maxResults)]),
    ("log", s.log.toJson)]

def storeOfJson? (j : Json) : Option StoreSettings := do
  match ← j.record? ["base_path", "password"] with
  | [basePath, password] =>
    return ⟨← Json.required Json.text? basePath, ← Json.optional Json.text? password⟩
  | _ => none

def searchOfJson? (j : Json) : Option SearchSettings := do
  match ← j.record? ["default_max_results"] with
  | [maxResults] => return ⟨← Json.required (Json.below? UInt64.size) maxResults⟩
  | _ => none

def ofJson? (j : Json) : Option Settings := do
  match ← j.record? ["policy", "store", "search", "log"] with
  | [policy, store, search, log] =>
    return {
      policy := ← Json.required Policy.ofJson? policy
      store := ← Json.required storeOfJson? store
      search := ← Json.required searchOfJson? search
      log := ← Json.required LogSettings.ofJson? log }
  | _ => none

end Settings

end TieredLedger
