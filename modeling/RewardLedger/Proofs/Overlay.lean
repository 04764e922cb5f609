import RewardLedger.Config.File
import RewardLedger.Proofs.Wire.Members

/-!
# A configuration file is an overlay

Every setting has two defaults: the one that it has when its section is left out, and the
one that it has when the section is there and does not give it. They are the same
(`Config.sections_default`), so a file can be read as a list of changes. What an object
**gives** is told without the reader: some of the settings, each by the one member of its
name, in any order and among members of other names (`Config.Given.In`). What comes of the
file is the initial configuration with just those settings replaced (`Config.Given.onto`).

A configuration that is written gives all of its settings, and is read back as it was.
-/

namespace RewardLedger

open Json (Document Members Field Reader Numeral HasMembers wellFormed_ofList
  record_ofList tells_text tells_bool tells_amount tells_count tells_countTo tells_choice
  tells_option tells_record)

/-! ## What documents stand for -/

namespace Json.Document

def IsText (d : Document) (s : String) : Prop := d = .string (some s)

def IsBool (d : Document) (b : Bool) : Prop := d = .bool b

/-- The document is a whole number, written as one. -/
def IsInt (d : Document) (n : Int) : Prop := ∃ m : Numeral, d = .number m ∧ m.value = .int n

/-- The document is a whole number from zero up to a greatest one. -/
def IsCount (greatest : Nat) (d : Document) (n : Nat) : Prop := d.IsInt n ∧ n ≤ greatest

/-- What is written of a count stands for it. -/
theorem isCount_ofInt (n : Nat) {greatest : Nat} (range : n ≤ greatest)
    (limit : greatest < 2 ^ 64) : (Document.number (.ofInt n)).IsCount greatest n :=
  ⟨⟨_, rfl, Numeral.value_ofInt (by omega) (by omega)⟩, range⟩

/-- The document is an amount. -/
def IsAmount (d : Document) (n : Int) : Prop := d.IsInt n ∧ Amount.Fits n

variable {α : Type}

/-- The document is null for nothing, or stands for a value. -/
def IsNullOr (stands : Document → α → Prop) (d : Document) : Option α → Prop
  | none => d = .null
  | some a => stands d a

/-- The document is an object with members that give something. -/
def IsObject (given : α → List (String × Document) → Prop) (d : Document) (a : α) : Prop :=
  ∃ ms, d = .object (.ofList ms) ∧ given a ms

end Json.Document

open Json.Document (IsText IsBool IsInt IsCount IsAmount IsNullOr IsObject isCount_ofInt)

/-- The document is the name of a kind of store: the bare name, or the only member of an
object, with nothing behind it. -/
def StorageKind.IsNamedBy (d : Document) (k : StorageKind) : Prop :=
  d = .string (some k.name) ∨ d = .object (.member (some k.name) .null .closed)

namespace Json

variable {α β : Type} {stands : Document → α → Prop} {r : Reader β} {f : α → β}

/-- **A reader takes documents for what they stand for**, or for what is made of it. -/
def Reads (stands : Document → α → Prop) (r : Reader β) (f : α → β) : Prop :=
  ∀ d a, d.wellFormed = true → stands d a → r d = .ok (f a)

theorem reads_text : Reads IsText .text id := by
  rintro _ s - rfl
  rfl

theorem reads_bool : Reads IsBool .bool id := by
  rintro _ b - rfl
  rfl

theorem reads_integer {least greatest : Int} {d : Document} {n : Int} (told : d.IsInt n)
    (range : least ≤ n ∧ n ≤ greatest) : Reader.integer least greatest d = .ok n := by
  obtain ⟨m, rfl, value⟩ := told
  simp only [Reader.integer, value, if_pos range]

theorem reads_amount : Reads IsAmount .amount id :=
  fun _ _ _ told => reads_integer told.1 told.2

theorem reads_count (greatest : Nat) : Reads (IsCount greatest) (.count greatest) id := by
  rintro d n - ⟨told, held⟩
  have read := reads_integer told ⟨Int.natCast_nonneg n, Int.ofNat_le.2 held⟩
  rw [Reader.count, Reader.map, read]
  rfl

theorem reads_kind : Reads StorageKind.IsNamedBy StorageKind.reader id := by
  rintro _ k - (rfl | rfl) <;> cases k <;> rfl

/-- Null is read for nothing, if it does not stand for a value. -/
theorem reads_nullOr (reads : Reads stands r f) (other : ∀ a, ¬ stands .null a) :
    Reads (IsNullOr stands) (.option r) (Option.map f) := by
  intro d o proper told
  cases o with
  | none =>
    cases told
    rfl
  | some a =>
    have read : (r d).map some = .ok (some (f a)) := by
      rw [reads d a proper told]
      rfl
    cases d with
    | null => exact absurd told (other a)
    | _ => exact read

theorem reads_textOrNull : Reads (IsNullOr IsText) (.option .text) id := by
  have read := reads_nullOr reads_text nofun
  rwa [Option.map_id] at read

/-- **A record is read from an object that gives its settings**, once each field gets
its value from them. -/
theorem reads_object {fs : List Field} {given : α → List (String × Document) → Prop}
    {make : Fields.Row fs → β} {row : α → Fields.Row fs}
    (distinct : (fs.map Field.name).Nodup) (once : ∀ {a ms}, given a ms → Fields.Once fs ms)
    (all : ∀ {a ms}, (∀ m ∈ ms, m.2.wellFormed = true) → given a ms →
      Fields.AllGet fs (Fields.none fs) ms (row a))
    (made : ∀ a, make (row a) = f a) : Reads (IsObject given) (.record fs make) f := by
  rintro _ a proper ⟨ms, rfl, h⟩
  have proper := wellFormed_ofList.1 proper
  exact record_ofList distinct proper (once h) (all proper h) (made a)

/-! ## What members give -/

/-- **Members give a setting**: there is one of its name, which stands for the value, or
there is none when the setting is not given. -/
def Setting (ms : List (String × Document)) (name : String) (stands : Document → α → Prop) :
    Option α → Prop
  | none => name ∉ ms.map Prod.fst
  | some a => ∃ d, (name, d) ∈ ms ∧ stands d a

theorem Setting.leftOut {ms : List (String × Document)} {name : String}
    (absent : name ∉ ms.map Prod.fst) : Setting ms name stands none := absent

namespace Field.Gets

variable {field : Field} {ms : List (String × Document)} {g : α → field.Value}
  (proper : ∀ m ∈ ms, m.2.wellFormed = true)

include proper

/-- A setting that is given is read. -/
theorem of_given (reads : Reads stands field.read g) {a : α}
    (given : Setting ms field.name stands (some a)) : field.Gets ms (g a) := by
  obtain ⟨d, listed, told⟩ := given
  exact .inl ⟨d, listed, reads d a (proper _ listed) told⟩

/-- **A setting is read if it is given**, and else is its default. -/
theorem of_setting {default : field.Value} (absent : field.absent = some default)
    (reads : Reads stands field.read g) {o : Option α}
    (given : Setting ms field.name stands o) : field.Gets ms (o.elim default g) := by
  cases o with
  | none => exact .inr ⟨given, absent⟩
  | some a => exact of_given proper reads given

/-- A setting of a plain value is the value, or its default. -/
theorem of_value {default : field.Value} (absent : field.absent = some default)
    {stands : Document → field.Value → Prop} (reads : Reads stands field.read id)
    {o : Option field.Value} (given : Setting ms field.name stands o) :
    field.Gets ms (o.getD default) := by
  have got := of_setting proper absent reads given
  cases o <;> exact got

end Field.Gets

end Json

open Json (Setting Reads reads_text reads_bool reads_amount reads_count reads_kind reads_nullOr
  reads_textOrNull reads_object)

variable {ms : List (String × Document)}

/-! ## The sections -/

namespace HttpConfig

/-- Which settings of the interface are given. -/
structure Given where
  bindAddress : Option String
  basePath : Option String
  callbackToken : Option (Option String)

namespace Given

/-- A configuration with the given settings replaced. -/
def onto (g : Given) (c : HttpConfig) : HttpConfig where
  bindAddress := g.bindAddress.getD c.bindAddress
  basePath := g.basePath.getD c.basePath
  callbackToken := g.callbackToken.getD c.callbackToken

/-- **Members give settings of the interface**, these and no others. -/
structure In (g : Given) (ms : List (String × Document)) : Prop where
  once : Json.Fields.Once fields ms
  bindAddress : Setting ms "bind_address" IsText g.bindAddress
  basePath : Setting ms "path_prefix" IsText g.basePath
  callbackToken : Setting ms "callback_token" (IsNullOr IsText) g.callbackToken

end Given

theorem reads : Reads (IsObject Given.In) reader (·.onto .initial) :=
  reads_object (by decide) (·.once)
    (fun proper h => .cons (.of_value proper rfl reads_text h.bindAddress) <|
      .cons (.of_value proper rfl reads_text h.basePath) <|
      .cons (.of_value proper rfl reads_textOrNull h.callbackToken) .nil)
    fun _ => rfl

end HttpConfig

namespace DatabaseConfig

/-- Which settings of a database are given. Where to find it has to be. -/
structure Given where
  connection : String
  maxConnections : Option Nat
  createTables : Option Bool

namespace Given

/-- The given settings; those that are left out are as for any database. -/
def config (g : Given) : DatabaseConfig where
  connection := g.connection
  maxConnections := g.maxConnections.getD (ofConnection g.connection).maxConnections
  createTables := g.createTables.getD (ofConnection g.connection).createTables

/-- **Members give settings of a database**, these and no others. -/
structure In (g : Given) (ms : List (String × Document)) : Prop where
  once : Json.Fields.Once fields ms
  connection : Setting ms "connection_string" IsText (some g.connection)
  maxConnections : Setting ms "max_connections" (IsCount connectionLimit) g.maxConnections
  createTables : Setting ms "create_tables" IsBool g.createTables

end Given

theorem reads : Reads (IsObject Given.In) reader Given.config :=
  reads_object (by decide) (·.once)
    (fun proper h => .cons (.of_given proper reads_text h.connection) <|
      .cons (.of_value proper rfl (reads_count _) h.maxConnections) <|
      .cons (.of_value proper rfl reads_bool h.createTables) .nil)
    fun _ => rfl

end DatabaseConfig

namespace StorageConfig

/-- Which settings of the store are given. -/
structure Given where
  kind : Option StorageKind
  database : Option (Option DatabaseConfig.Given)

namespace Given

/-- A configuration with the given settings replaced. -/
def onto (g : Given) (c : StorageConfig) : StorageConfig where
  kind := g.kind.getD c.kind
  database := g.database.elim c.database (·.map (·.config))

/-- **Members give settings of the store**, these and no others. -/
structure In (g : Given) (ms : List (String × Document)) : Prop where
  once : Json.Fields.Once fields ms
  kind : Setting ms "storage_type" StorageKind.IsNamedBy g.kind
  database : Setting ms "postgres" (IsNullOr (IsObject DatabaseConfig.Given.In)) g.database

end Given

theorem reads : Reads (IsObject Given.In) reader (·.onto .initial) :=
  reads_object (by decide) (·.once)
    (fun proper h => .cons (.of_value proper rfl reads_kind h.kind) <|
      .cons (.of_setting proper rfl (reads_nullOr DatabaseConfig.reads nofun) h.database)
        .nil)
    fun _ => rfl

end StorageConfig

namespace CacheConfig

/-- Which settings of the cache are given. -/
structure Given where
  refreshSeconds : Option Nat
  latestIncomes : Option Nat

namespace Given

/-- A configuration with the given settings replaced. -/
def onto (g : Given) (c : CacheConfig) : CacheConfig where
  refreshSeconds := g.refreshSeconds.getD c.refreshSeconds
  latestIncomes := g.latestIncomes.getD c.latestIncomes

/-- **Members give settings of the cache**, these and no others. -/
structure In (g : Given) (ms : List (String × Document)) : Prop where
  once : Json.Fields.Once fields ms
  refreshSeconds :
    Setting ms "refresh_interval_secs" (IsCount Amount.greatestCount) g.refreshSeconds
  latestIncomes : Setting ms "latest_incomes" (IsCount Amount.greatestCount) g.latestIncomes

end Given

theorem reads : Reads (IsObject Given.In) reader (·.onto .initial) :=
  reads_object (by decide) (·.once)
    (fun proper h => .cons (.of_value proper rfl (reads_count _) h.refreshSeconds) <|
      .cons (.of_value proper rfl (reads_count _) h.latestIncomes) .nil)
    fun _ => rfl

end CacheConfig

namespace HubConfig

/-- Which settings of the hub are given. -/
structure Given where
  writeTimeoutMillis : Option Nat

namespace Given

/-- A configuration with the given settings replaced. -/
def onto (g : Given) (c : HubConfig) : HubConfig where
  writeTimeoutMillis := g.writeTimeoutMillis.getD c.writeTimeoutMillis

/-- **Members give settings of the hub**, these and no others. -/
structure In (g : Given) (ms : List (String × Document)) : Prop where
  once : Json.Fields.Once fields ms
  writeTimeoutMillis :
    Setting ms "write_timeout_ms" (IsCount Amount.greatestCount) g.writeTimeoutMillis

end Given

theorem reads : Reads (IsObject Given.In) reader (·.onto .initial) :=
  reads_object (by decide) (·.once)
    (fun proper h => .cons (.of_value proper rfl (reads_count _) h.writeTimeoutMillis) .nil)
    fun _ => rfl

end HubConfig

namespace WithdrawalConfig

/-- Which settings of the scheduled withdrawals are given. -/
structure Given where
  enabled : Option Bool
  intervalSeconds : Option Nat
  minBalance : Option Int

namespace Given

/-- A configuration with the given settings replaced. -/
def onto (g : Given) (c : WithdrawalConfig) : WithdrawalConfig where
  enabled := g.enabled.getD c.enabled
  intervalSeconds := g.intervalSeconds.getD c.intervalSeconds
  minBalance := g.minBalance.getD c.minBalance

/-- **Members give settings of the scheduled withdrawals**, these and no others. -/
structure In (g : Given) (ms : List (String × Document)) : Prop where
  once : Json.Fields.Once fields ms
  enabled : Setting ms "enabled" IsBool g.enabled
  intervalSeconds : Setting ms "interval_secs" (IsCount Amount.greatestCount) g.intervalSeconds
  minBalance : Setting ms "min_balance" IsAmount g.minBalance

end Given

theorem reads : Reads (IsObject Given.In) reader (·.onto .initial) :=
  reads_object (by decide) (·.once)
    (fun proper h => .cons (.of_value proper rfl reads_bool h.enabled) <|
      .cons (.of_value proper rfl (reads_count _) h.intervalSeconds) <|
      .cons (.of_value proper rfl reads_amount h.minBalance) .nil)
    fun _ => rfl

end WithdrawalConfig

/-! ## The whole configuration -/

namespace Config

/-- Which settings are given, section by section. -/
structure Given where
  http : Option HttpConfig.Given
  storage : Option StorageConfig.Given
  cache : Option CacheConfig.Given
  hub : Option HubConfig.Given
  withdrawal : Option WithdrawalConfig.Given
  logLevel : Option String

namespace Given

/-- **A configuration with the given settings replaced**, and no others. -/
def onto (g : Given) (c : Config) : Config where
  http := g.http.elim c.http (·.onto c.http)
  storage := g.storage.elim c.storage (·.onto c.storage)
  cache := g.cache.elim c.cache (·.onto c.cache)
  hub := g.hub.elim c.hub (·.onto c.hub)
  withdrawal := g.withdrawal.elim c.withdrawal (·.onto c.withdrawal)
  logLevel := g.logLevel.getD c.logLevel

/-- **Members give settings**, these and no others. -/
structure In (g : Given) (ms : List (String × Document)) : Prop where
  once : Json.Fields.Once fields ms
  http : Setting ms "http" (IsObject HttpConfig.Given.In) g.http
  storage : Setting ms "storage" (IsObject StorageConfig.Given.In) g.storage
  cache : Setting ms "cache" (IsObject CacheConfig.Given.In) g.cache
  hub : Setting ms "hub" (IsObject HubConfig.Given.In) g.hub
  withdrawal : Setting ms "withdrawal" (IsObject WithdrawalConfig.Given.In) g.withdrawal
  logLevel : Setting ms "log_level" IsText g.logLevel

/-- What the fields get: the initial settings, where they are not given. -/
theorem In.allGet {g : Given} (h : g.In ms) (proper : ∀ m ∈ ms, m.2.wellFormed = true) :
    Json.Fields.AllGet fields (Json.Fields.none fields) ms
      (g.http.elim .initial (·.onto .initial), g.storage.elim .initial (·.onto .initial),
        g.cache.elim .initial (·.onto .initial), g.hub.elim .initial (·.onto .initial),
        g.withdrawal.elim .initial (·.onto .initial), g.logLevel.getD defaultLogLevel, ()) :=
  .cons (.of_setting proper rfl HttpConfig.reads h.http) <|
    .cons (.of_setting proper rfl StorageConfig.reads h.storage) <|
    .cons (.of_setting proper rfl CacheConfig.reads h.cache) <|
    .cons (.of_setting proper rfl HubConfig.reads h.hub) <|
    .cons (.of_setting proper rfl WithdrawalConfig.reads h.withdrawal) <|
    .cons (.of_value proper rfl reads_text h.logLevel) .nil

end Given

/-- The names of the sections. -/
def sections : List String := ["http", "storage", "cache", "hub", "withdrawal"]

/-- **The two defaults of a section are the same**: a section in which nothing is given is
read as one that is left out. -/
theorem sections_default {f : Field} (listed : f ∈ fields) (named : f.name ∈ sections)
    {v : f.Value} (absent : f.absent = some v) : f.read (.object (.ofList [])) = .ok v := by
  simp only [fields, List.mem_cons, List.not_mem_nil, or_false] at listed
  obtain rfl | rfl | rfl | rfl | rfl | rfl := listed
  case inr.inr.inr.inr.inr => exact absurd named (by decide)
  all_goals
    cases absent
    rfl

/-! ## Files -/

variable {text : String} {c : Config} {g : Given}

/-- A file is read as the text that it holds. -/
theorem ofFile_toUTF8 (text : String) : ofFile (some text.toUTF8) = ofText text := by
  have held : String.fromUTF8? text.toUTF8 = some text := dif_pos text.isValidUTF8
  unfold ofFile
  simp only [held]

/-- A text is read as the object that it is. -/
theorem ofText_of_hasMembers (laid : HasMembers text ms)
    (read : reader (.object (.ofList ms)) = .ok c) : ofText text = .ok c := by
  unfold HasMembers at laid
  unfold ofText Reader.wholeText
  simp only [laid, read, if_true]

/-- **An object that gives settings is read as the initial configuration with these
settings replaced.** -/
theorem ofText_of_in (laid : HasMembers text ms) (h : g.In ms) :
    ofText text = .ok (g.onto .initial) :=
  ofText_of_hasMembers laid
    (record_ofList (by decide) laid.proper h.once (h.allGet laid.proper) rfl)

/-- **A section in which nothing is given changes nothing**, wherever it is put. -/
theorem ofText_of_empty_section {before after : List (String × Document)} {name : String}
    (laid : HasMembers text (before ++ (name, .object (.ofList [])) :: after))
    (isSection : name ∈ sections) (free : name ∉ (before ++ after).map Prod.fst)
    (h : g.In (before ++ after)) : ofText text = .ok (g.onto .initial) := by
  have proper : ∀ m ∈ before ++ after, m.2.wellFormed = true := fun m listed =>
    laid.proper m (List.perm_middle.mem_iff.2 (List.mem_cons_of_mem _ listed))
  have all := (h.allGet proper).insert (d := .object (.ofList [])) free
    fun f listed same v absent => sections_default listed (same ▸ isSection) absent
  exact ofText_of_hasMembers laid
    (record_ofList (by decide) laid.proper (h.once.insert free) all rfl)

/-- A configuration is **held** if its numbers are in the ranges that they are kept in. -/
structure Held (c : Config) : Prop where
  maxConnections : ∀ d ∈ c.storage.database, d.maxConnections ≤ DatabaseConfig.connectionLimit
  refreshSeconds : c.cache.refreshSeconds ≤ Amount.greatestCount
  latestIncomes : c.cache.latestIncomes ≤ Amount.greatestCount
  writeTimeoutMillis : c.hub.writeTimeoutMillis ≤ Amount.greatestCount
  intervalSeconds : c.withdrawal.intervalSeconds ≤ Amount.greatestCount
  minBalance : Amount.Fits c.withdrawal.minBalance

end Config

/-! ## Configurations that are written -/

theorem HttpConfig.tells (c : HttpConfig) : c.json.Tells reader c :=
  tells_record
    (.given (tells_text _) <| .given (tells_text _) <|
      .given (tells_option (fun s _ => tells_text s) nofun) .nil)
    (by decide) rfl

theorem DatabaseConfig.tells {c : DatabaseConfig} (held : c.maxConnections ≤ connectionLimit) :
    c.json.Tells reader c :=
  tells_record
    (.given (tells_text _) <| .given (tells_countTo held (by decide)) <|
      .given (tells_bool _) .nil)
    (by decide) rfl

theorem StorageConfig.tells {c : StorageConfig}
    (held : ∀ d ∈ c.database, d.maxConnections ≤ DatabaseConfig.connectionLimit) :
    c.json.Tells reader c :=
  tells_record
    (.given (tells_choice (StorageKind.ofName?_name _)) <|
      .given (tells_option (fun d hd => DatabaseConfig.tells (held d hd)) nofun) .nil)
    (by decide) rfl

theorem CacheConfig.tells {c : CacheConfig} (refresh : c.refreshSeconds ≤ Amount.greatestCount)
    (latest : c.latestIncomes ≤ Amount.greatestCount) : c.json.Tells reader c :=
  tells_record (.given (tells_count refresh) <| .given (tells_count latest) .nil) (by decide) rfl

theorem HubConfig.tells {c : HubConfig} (held : c.writeTimeoutMillis ≤ Amount.greatestCount) :
    c.json.Tells reader c :=
  tells_record (.given (tells_count held) .nil) (by decide) rfl

theorem WithdrawalConfig.tells {c : WithdrawalConfig}
    (interval : c.intervalSeconds ≤ Amount.greatestCount) (least : Amount.Fits c.minBalance) :
    c.json.Tells reader c :=
  tells_record
    (.given (tells_bool _) <| .given (tells_count interval) <| .given (tells_amount least) .nil)
    (by decide) rfl

namespace Config

theorem tells {c : Config} (h : c.Held) : c.json.Tells reader c :=
  tells_record
    (.given (HttpConfig.tells _) <| .given (StorageConfig.tells h.maxConnections) <|
      .given (CacheConfig.tells h.refreshSeconds h.latestIncomes) <|
      .given (HubConfig.tells h.writeTimeoutMillis) <|
      .given (WithdrawalConfig.tells h.intervalSeconds h.minBalance) <|
      .given (tells_text _) .nil)
    (by decide) rfl

/-- **A configuration that is written is read back as it was.** -/
theorem ofText_text {c : Config} (h : c.Held) : ofText c.json.text = .ok c := by
  unfold ofText
  rw [(tells h).wholeText]

/-- **A configuration file is an overlay over the defaults.** A file that gives some of the
settings, in any order and among other members, is read as the initial configuration with
just those replaced. A section in which nothing is given may as well be left out. And what
is written of a configuration is read back as it was. -/
theorem files_overlay_defaults :
    (∀ text ms g, HasMembers text ms → Given.In g ms →
      ofFile (some text.toUTF8) = .ok (g.onto .initial))
    ∧ (∀ name ∈ sections, ∀ text longer before after g,
      name ∉ (before ++ after).map Prod.fst → Given.In g (before ++ after) →
      HasMembers text (before ++ after) →
      HasMembers longer (before ++ (name, .object (.ofList [])) :: after) →
      ofFile (some longer.toUTF8) = ofFile (some text.toUTF8))
    ∧ ∀ c : Config, c.Held → ofFile (some c.json.text.toUTF8) = .ok c := by
  simp only [ofFile_toUTF8]
  refine ⟨fun text ms g laid h => ofText_of_in laid h, ?_, fun c => ofText_text⟩
  intro name isSection text longer before after g free h laid laid'
  rw [ofText_of_in laid h, ofText_of_empty_section laid' isSection free h]

set_option maxRecDepth 1024 in
/-- A file with its keys out of order, an escape, and keys that nothing asks for: one that
is given twice, one inside a section, and one whose value is beyond all doubles and has the
name of a section in it. With or without an empty section it comes to the same. -/
theorem files_overlay_defaults_of_scattered_keys :
    let head := "\x7b \"x\":[\x7b\"http\":1e999\x7d], \"x\":0, \"hub\":\x7b\"y\":[],"
      ++ "\"write_timeout_ms\":25\x7d,"
    let tail := "\"storage\":\x7b\"postgres\":\x7b\"connection_string\":\"a:\\/h\"\x7d\x7d\x7d"
    let c : Config :=
      ⟨.initial, ⟨.memory, some (.ofConnection "a:/h")⟩, .initial, ⟨25⟩, .initial, "info"⟩
    ofFile (some (head ++ tail).toUTF8) = .ok c
      ∧ ofFile (some (head ++ "\"withdrawal\":\x7b\x7d," ++ tail).toUTF8) = .ok c
      ∧ c.Held ∧ ofFile (some c.json.text.toUTF8) = .ok c := by
  intro head tail c
  let hub : List (String × Document) :=
    [("y", .array .closed), ("write_timeout_ms", .number (.ofInt 25))]
  let database : List (String × Document) := [("connection_string", .string (some "a:/h"))]
  let storage : List (String × Document) := [("postgres", .object (.ofList database))]
  let beyond : Document := .number ⟨false, ['1'], none, some 999⟩
  let before : List (String × Document) :=
    [("x", .array (.item (.object (.ofList [("http", beyond)])) .closed)),
      ("x", .number (.ofInt 0)), ("hub", .object (.ofList hub))]
  let after : List (String × Document) := [("storage", .object (.ofList storage))]
  have hubGiven : HubConfig.Given.In ⟨some 25⟩ hub :=
    ⟨by decide, _, .tail _ (.head _), isCount_ofInt 25 (by decide) (by decide)⟩
  have databaseGiven : DatabaseConfig.Given.In ⟨"a:/h", none, none⟩ database :=
    ⟨by decide, ⟨_, .head _, rfl⟩, .leftOut (by decide), .leftOut (by decide)⟩
  have storageGiven :
      StorageConfig.Given.In ⟨none, some (some ⟨"a:/h", none, none⟩)⟩ storage :=
    ⟨by decide, .leftOut (by decide), _, .head _, database, rfl, databaseGiven⟩
  have given : Given.In ⟨none, some ⟨none, some (some ⟨"a:/h", none, none⟩)⟩, none,
      some ⟨some 25⟩, none, none⟩ (before ++ after) :=
    ⟨by decide, .leftOut (by decide),
      ⟨_, .tail _ (.tail _ (.tail _ (.head _))), storage, rfl, storageGiven⟩,
      .leftOut (by decide), ⟨_, .tail _ (.tail _ (.head _)), hub, rfl, hubGiven⟩,
      .leftOut (by decide), .leftOut (by decide)⟩
  have laid : HasMembers (head ++ tail) (before ++ after) := by
    unfold HasMembers
    simp only [head, tail, String.toList_append, String.reduceToList]
    rfl
  have laid' : HasMembers (head ++ "\"withdrawal\":\x7b\x7d," ++ tail)
      (before ++ ("withdrawal", .object (.ofList [])) :: after) := by
    unfold HasMembers
    simp only [head, tail, String.toList_append, String.reduceToList]
    rfl
  have read : ofFile (some (head ++ tail).toUTF8) = .ok c :=
    files_overlay_defaults.1 _ _ _ laid given
  have held : c.Held := by constructor <;> decide
  refine ⟨read, ?_, held, files_overlay_defaults.2.2 c held⟩
  rw [files_overlay_defaults.2.1 "withdrawal" (by decide) _ _ before after _ (by decide) given
    laid laid', read]

end Config

end RewardLedger
