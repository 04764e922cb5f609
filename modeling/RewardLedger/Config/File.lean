import RewardLedger.Config.Basic
import RewardLedger.Error
import RewardLedger.Json.Reader

/-!
# Configuration files

A configuration file is a JSON text that gives some of the settings; all
others keep their defaults.
-/

namespace RewardLedger

open Json (Field Reader)

namespace HttpConfig

def json (c : HttpConfig) : Json :=
  .obj [("bind_address", .str c.bindAddress), ("path_prefix", .str c.basePath),
    ("callback_token", .ofOption .str c.callbackToken)]

@[reducible] def fields : List Field :=
  [.withDefault "bind_address" .text defaultBindAddress,
    .withDefault "path_prefix" .text defaultBasePath, .optional "callback_token" .text]

def reader : Reader HttpConfig :=
  .record fields fun (bindAddress, basePath, callbackToken, ()) =>
    { bindAddress, basePath, callbackToken }

end HttpConfig

namespace StorageKind

def reader : Reader StorageKind := .choice ofName?

end StorageKind

namespace DatabaseConfig

/-- The greatest number of connections that can be asked for. -/
def connectionLimit : Nat := 4294967295

def json (c : DatabaseConfig) : Json :=
  .obj [("connection_string", .str c.connection), ("max_connections", .int c.maxConnections),
    ("create_tables", .bool c.createTables)]

@[reducible] def fields : List Field :=
  [.required "connection_string" .text,
    .withDefault "max_connections" (.count connectionLimit) defaultMaxConnections,
    .withDefault "create_tables" .bool false]

def reader : Reader DatabaseConfig :=
  .record fields fun (connection, maxConnections, createTables, ()) =>
    { connection, maxConnections, createTables }

end DatabaseConfig

namespace StorageConfig

def json (c : StorageConfig) : Json :=
  .obj [("storage_type", .str c.kind.name),
    ("postgres", .ofOption DatabaseConfig.json c.database)]

@[reducible] def fields : List Field :=
  [.withDefault "storage_type" StorageKind.reader .memory,
    .optional "postgres" DatabaseConfig.reader]

def reader : Reader StorageConfig :=
  .record fields fun (kind, database, ()) => { kind, database }

end StorageConfig

namespace CacheConfig

def json (c : CacheConfig) : Json :=
  .obj [("refresh_interval_secs", .int c.refreshSeconds),
    ("latest_incomes", .int c.latestIncomes)]

@[reducible] def fields : List Field :=
  [.withDefault "refresh_interval_secs" (.count Amount.greatestCount) defaultRefreshSeconds,
    .withDefault "latest_incomes" (.count Amount.greatestCount) defaultLatestIncomes]

def reader : Reader CacheConfig :=
  .record fields fun (refreshSeconds, latestIncomes, ()) =>
    { refreshSeconds, latestIncomes }

end CacheConfig

namespace HubConfig

def json (c : HubConfig) : Json := .obj [("write_timeout_ms", .int c.writeTimeoutMillis)]

@[reducible] def fields : List Field :=
  [.withDefault "write_timeout_ms" (.count Amount.greatestCount) defaultWriteTimeoutMillis]

def reader : Reader HubConfig :=
  .record fields fun (writeTimeoutMillis, ()) => { writeTimeoutMillis }

end HubConfig

namespace WithdrawalConfig

def json (c : WithdrawalConfig) : Json :=
  .obj [("enabled", .bool c.enabled), ("interval_secs", .int c.intervalSeconds),
    ("min_balance", .int c.minBalance)]

@[reducible] def fields : List Field :=
  [.withDefault "enabled" .bool false,
    .withDefault "interval_secs" (.count Amount.greatestCount) defaultIntervalSeconds,
    .withDefault "min_balance" .amount 0]

def reader : Reader WithdrawalConfig :=
  .record fields fun (enabled, intervalSeconds, minBalance, ()) =>
    { enabled, intervalSeconds, minBalance }

end WithdrawalConfig

namespace Config

def json (c : Config) : Json :=
  .obj [("http", c.http.json), ("storage", c.storage.json), ("cache", c.cache.json),
    ("hub", c.hub.json), ("withdrawal", c.withdrawal.json), ("log_level", .str c.logLevel)]

@[reducible] def fields : List Field :=
  [.withDefault "http" HttpConfig.reader .initial,
    .withDefault "storage" StorageConfig.reader .initial,
    .withDefault "cache" CacheConfig.reader .initial,
    .withDefault "hub" HubConfig.reader .initial,
    .withDefault "withdrawal" WithdrawalConfig.reader .initial,
    .withDefault "log_level" .text defaultLogLevel]

def reader : Reader Config :=
  .record fields fun (http, storage, cache, hub, withdrawal, logLevel, ()) =>
    { http, storage, cache, hub, withdrawal, logLevel }

/-- The settings that a text gives. -/
def ofText (text : String) : Except Error Config :=
  match Reader.wholeText reader text with
  | .ok c => .ok c
  | .error _ => .error .json

/-- The settings that the bytes of a file give, when there is such a file. -/
def ofFile : Option ByteArray → Except Error Config
  | none => .error (.file "No such file or directory (os error 2)")
  | some bytes =>
    match String.fromUTF8? bytes with
    | none => .error (.file "stream did not contain valid UTF-8")
    | some text => ofText text

end Config

end RewardLedger
