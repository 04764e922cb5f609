import RewardLedger.SocketAddress

/-!
# Configuration

The settings of the service. Every setting has a default, except where to find
the database when there is one.
-/

namespace RewardLedger

/-- Where the service listens, and what it asks of partners. -/
structure HttpConfig where
  bindAddress : String
  /-- The path under which the routes of the ledger lie. -/
  basePath : String
  /-- The secret that partners present with their notices. -/
  callbackToken : Option String
  deriving DecidableEq, Repr

/-- The kinds of store. -/
inductive StorageKind where
  | postgres
  | memory
  deriving DecidableEq, Repr

namespace StorageKind

def all : List StorageKind := [postgres, memory]

/-- The name of a kind in a configuration. -/
def name : StorageKind → String
  | postgres => "postgres"
  | memory => "memory"

/-- The kind with a given name. -/
def ofName? (text : String) : Option StorageKind := all.find? fun k => k.name = text

@[simp] theorem ofName?_name (k : StorageKind) : ofName? k.name = some k := by
  cases k <;> decide

/-- The name of a kind in the log. -/
def title : StorageKind → String
  | postgres => "Postgres"
  | memory => "Memory"

end StorageKind

/-- How to reach the database. -/
structure DatabaseConfig where
  connection : String
  maxConnections : Nat
  /-- Create the relations that are missing when the service starts. -/
  createTables : Bool
  deriving DecidableEq, Repr

/-- Which store to use. -/
structure StorageConfig where
  kind : StorageKind
  database : Option DatabaseConfig
  deriving DecidableEq, Repr

/-- How often the cache is refreshed, and how many incomes it shows. -/
structure CacheConfig where
  refreshSeconds : Nat
  latestIncomes : Nat
  deriving DecidableEq, Repr

/-- How long the feed waits for one client. -/
structure HubConfig where
  writeTimeoutMillis : Nat
  deriving DecidableEq, Repr

/-- The scheduled withdrawals. -/
structure WithdrawalConfig where
  enabled : Bool
  intervalSeconds : Nat
  minBalance : Int
  deriving DecidableEq, Repr

/-- All settings. -/
structure Config where
  http : HttpConfig
  storage : StorageConfig
  cache : CacheConfig
  hub : HubConfig
  withdrawal : WithdrawalConfig
  logLevel : String
  deriving DecidableEq, Repr

namespace HttpConfig

def defaultBindAddress : String := "0.0.0.0:3000"

def defaultBasePath : String := "/v1"

/-- The settings of the interface when none are given. -/
def initial : HttpConfig := ⟨defaultBindAddress, defaultBasePath, none⟩

end HttpConfig

namespace DatabaseConfig

def defaultMaxConnections : Nat := 16

/-- The settings of a database of which only the address is given. -/
def ofConnection (connection : String) : DatabaseConfig :=
  ⟨connection, defaultMaxConnections, false⟩

/-- The address has the form of a URL. -/
def LooksLikeUrl (d : DatabaseConfig) : Prop := "://".toList <:+: d.connection.toList

instance (d : DatabaseConfig) : Decidable d.LooksLikeUrl :=
  inferInstanceAs (Decidable (_ <:+: _))

end DatabaseConfig

namespace StorageConfig

/-- The store in memory. -/
def initial : StorageConfig := ⟨.memory, none⟩

end StorageConfig

namespace CacheConfig

def defaultRefreshSeconds : Nat := 60

def defaultLatestIncomes : Nat := 50

def initial : CacheConfig := ⟨defaultRefreshSeconds, defaultLatestIncomes⟩

/-- Seconds between two refreshes, at least one. -/
def refreshInterval (c : CacheConfig) : Nat := max c.refreshSeconds 1

end CacheConfig

namespace HubConfig

def defaultWriteTimeoutMillis : Nat := 5000

def initial : HubConfig := ⟨defaultWriteTimeoutMillis⟩

end HubConfig

namespace WithdrawalConfig

def defaultIntervalSeconds : Nat := 86400

def initial : WithdrawalConfig := ⟨false, defaultIntervalSeconds, 0⟩

/-- Seconds between two sweeps, at least one. -/
def interval (c : WithdrawalConfig) : Nat := max c.intervalSeconds 1

end WithdrawalConfig

namespace Config

def defaultLogLevel : String := "info"

/-- The settings when nothing is configured. -/
def initial : Config :=
  ⟨.initial, .initial, .initial, .initial, .initial, defaultLogLevel⟩

end Config

/-- What the interface needs to know to serve. -/
structure Interface where
  address : SocketAddress
  /-- Whether the metrics are served. -/
  metrics : Bool
  /-- The path in front of the routes of the ledger, if there is one. -/
  basePath : Option String
  deriving DecidableEq, Repr

namespace Interface

/-- The base path without the slashes at its end; nothing when nothing is
left. -/
def basePathOf (path : String) : Option String :=
  let kept := (path.toList.reverse.dropWhile (· = '/')).reverse
  if kept = [] then none else some (String.ofList kept)

/-- The interface that a configuration describes, when it names a socket
address. -/
def ofConfig? (http : HttpConfig) : Option Interface :=
  (SocketAddress.parse? http.bindAddress).map fun address =>
    ⟨address, true, basePathOf http.basePath⟩

end Interface

end RewardLedger
