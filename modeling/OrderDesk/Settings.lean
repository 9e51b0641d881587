import OrderDesk.Duration
import OrderDesk.Text.Blank

/-!
# Settings

The settings of the service are named texts, such as environment variables.  Only
the address of the database must be given.  Numbers may have blanks around them
and must fit their width, and two of them must not be zero.  The first fault in
the order of the fields is reported.
-/

namespace OrderDesk

/-- What is wrong with a named text. -/
inductive SettingsError where
  | missing (name : String)
  | invalid (name : String)
deriving DecidableEq, Repr

/-- The wording of each fault. -/
def SettingsError.message : SettingsError → String
  | .missing name => "Missing environment variable: " ++ name
  | .invalid name => "Invalid value for environment variable: " ++ name

/-- The settings of the service. -/
structure Settings where
  databaseUrl : String
  databaseMaxConnections : Nat
  host : String
  port : Nat
  environment : String
  orderMaxLines : Nat
  storeTimeoutMillis : Nat
  logFormat : String
deriving DecidableEq, Repr

namespace Settings

/-- A number of at most the given size, or a default if it is not set. -/
def number (lookUp : String → Option String) (name : String) (most default : Nat) :
    Except SettingsError Nat :=
  match lookUp name with
  | none => .ok default
  | some text => (Text.readNat most (Text.trim text.toList)).mapError fun _ => .invalid name

/-- A number that must not be zero. -/
def positive (lookUp : String → Option String) (name : String) (most default : Nat) :
    Except SettingsError Nat :=
  match number lookUp name most default with
  | .ok 0 => .error (.invalid name)
  | result => result

/-- Reads the settings by looking up their names. -/
def load (lookUp : String → Option String) : Except SettingsError Settings := do
  let databaseUrl ← match lookUp "DATABASE_URL" with
    | some url => .ok url
    | none => .error (.missing "DATABASE_URL")
  let databaseMaxConnections ← number lookUp "DATABASE_MAX_CONNECTIONS" 0xFFFFFFFF 10
  let port ← number lookUp "PORT" 0xFFFF 3000
  let orderMaxLines ← positive lookUp "ORDER_MAX_LINES" 0xFFFFFFFFFFFFFFFF 5
  let storeTimeoutMillis ← positive lookUp "STORE_TIMEOUT_MS" 0xFFFFFFFFFFFFFFFF 5000
  return {
    databaseUrl
    databaseMaxConnections
    host := (lookUp "HOST").getD "127.0.0.1"
    port
    environment := (lookUp "ENVIRONMENT").getD "development"
    orderMaxLines
    storeTimeoutMillis
    logFormat := (lookUp "LOG_FORMAT").getD "text" }

/-- Whether the service runs for real customers. -/
def isProduction (s : Settings) : Bool :=
  s.environment == "production"

/-- Whether logs are written as JSON. -/
def jsonLogs (s : Settings) : Bool :=
  s.logFormat.toLower == "json"

/-- The longest time that a call to the store may take. -/
def storeTimeout (s : Settings) : Duration :=
  Duration.ofMillis s.storeTimeoutMillis

end Settings
end OrderDesk
