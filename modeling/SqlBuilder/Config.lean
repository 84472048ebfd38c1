import SqlBuilder.Json.Reading
import SqlBuilder.Keyword
import SqlBuilder.Record

/-! # Configuration

A configuration names data sources and says which of them is the default.  It is read from JSON:
an object's members, or an array's items in the order of the fields, give the fields of a structure;
missing fields have defaults, unknown members are ignored whatever they hold, and a field that is
given twice or with the wrong type is an error. -/

namespace SqlBuilder

/-! ## Sorted entries -/

/-- Texts with values, sorted by the texts. -/
abbrev SortedEntries (α : Type) : Type := List (String × α)

/-- Give a text a value, in its place in the order. -/
def SortedEntries.put {α : Type} (key : String) (value : α) : SortedEntries α → SortedEntries α
  | [] => [(key, value)]
  | (k, v) :: rest =>
    if k = key then (key, value) :: rest
    else if key < k then (key, value) :: (k, v) :: rest
    else (k, v) :: SortedEntries.put key value rest

/-- The sorted entries that a sequence of pairs leaves. -/
def SortedEntries.ofPairs {α : Type} (pairs : List (String × α)) : SortedEntries α :=
  pairs.foldl (fun entries pair => SortedEntries.put pair.1 pair.2 entries) []

/-! ## Structures -/

/-- Rows of a canned result, as JSON objects. -/
abbrev JsonRows : Type := List (Entries String Json)

/-- What is known about a database. -/
structure DataSource where
  /-- The name of the data source. -/
  id : String
  /-- The dialect that the database speaks. -/
  dialect : Dialect
  driver : Option String
  host : Option String
  port : Option UInt16
  database : Option String
  username : Option String
  password : Option String
  charset : Option String
  role : Option String
  /-- Whether connections are kept open. -/
  persistent : Bool
  /-- Canned results by the statement that they answer. -/
  results : SortedEntries JsonRows

namespace DataSource

/-- A data source with a name and a dialect, and nothing else known. -/
def new (id : String) (d : Dialect) : DataSource :=
  ⟨id, d, none, none, none, none, none, none, none, none, false, []⟩

/-- The data source with a database. -/
def withDatabase (s : DataSource) (name : String) : DataSource := { s with database := some name }

/-- The data source with a host. -/
def withHost (s : DataSource) (name : String) : DataSource := { s with host := some name }

/-- The records of a canned result. -/
def resultRows (s : DataSource) (sql : String) : Option (List Record) :=
  (Entries.find sql s.results).map fun rows => rows.map Record.ofJson

end DataSource

/-- Data sources by name. -/
structure Config where
  /-- The data sources. -/
  dataSources : SortedEntries DataSource
  /-- The name of the default data source. -/
  defaultName : Option String

/-! ## Reading -/

namespace JsonSource

/-- The fields that an object or an array gives to a structure with the given field names, in the
order of the text.  An array may be short, but not long. -/
def fields (names : List String) : JsonSource → Option (List (String × JsonSource))
  | .object members => members.mapM fun m => (stringText m.1).map fun key => (key, m.2)
  | .array items => if items.length ≤ names.length then some (names.zip items) else none
  | _ => none

/-- Whether no field is given twice. -/
def distinctFields (names : List String) (given : List (String × JsonSource)) : Bool :=
  names.all fun name => decide ((given.filter fun g => g.1 == name).length ≤ 1)

/-- The fields that a value gives to a structure, if its brackets may nest and no field is given
twice. -/
def structure? (depth : Nat) (names : List String) (source : JsonSource) :
    Option (List (String × JsonSource)) :=
  if depth = 0 then none
  else (source.fields names).filter (distinctFields names)

/-- A field read as a type, or its default if it is not given. -/
def field {α : Type} (given : List (String × JsonSource)) (name : String) (default : α)
    (read : JsonSource → Option α) : Option α :=
  match given.find? fun g => g.1 == name with
  | some g => read g.2
  | none => some default

/-- A string. -/
def text? : JsonSource → Option String
  | .string pieces => stringText pieces
  | _ => none

/-- A truth value. -/
def bool? : JsonSource → Option Bool
  | .bool b => some b
  | _ => none

/-- A whole number of 16 bits. -/
def port? : JsonSource → Option UInt16
  | .number n =>
    match n.meaning with
    | some (.natural n) => if n.toNat < UInt16.size then some (UInt16.ofNat n.toNat) else none
    | _ => none
  | _ => none

/-- Null, or a value read as a type. -/
def optional? {α : Type} (read : JsonSource → Option α) : JsonSource → Option (Option α)
  | .null => some none
  | source => (read source).map some

/-- An object whose values are read as a type; of a repeated key the last value counts. -/
def sorted? {α : Type} (depth : Nat) (read : JsonSource → Option α) :
    JsonSource → Option (SortedEntries α)
  | .object members =>
    if depth = 0 then none
    else (members.mapM fun (key, source) => do
      let name ← stringText key
      let value ← read source
      return (name, value)).map SortedEntries.ofPairs
  | _ => none

/-- An array of objects. -/
def rows? (depth : Nat) : JsonSource → Option JsonRows
  | .array items =>
    if depth = 0 then none
    else items.mapM fun item =>
      match item.meaning (depth - 1) with
      | some (.object members) => some members
      | _ => none
  | _ => none

end JsonSource

namespace DataSource

/-- The fields of a data source, in order. -/
def fieldNames : List String :=
  ["id", "dialect", "driver", "host", "port", "database", "username", "password", "charset", "role",
    "persistent", "results"]

/-- The data source that a value describes. -/
def ofSource? (depth : Nat) (source : JsonSource) : Option DataSource := do
  let given ← source.structure? depth fieldNames
  let textField := fun name =>
    JsonSource.field given name none (JsonSource.optional? JsonSource.text?)
  let id ← JsonSource.field given "id" "" JsonSource.text?
  let dialect ← JsonSource.field given "dialect" .standard fun s =>
    s.text?.bind Dialect.ofText?
  let driver ← textField "driver"
  let host ← textField "host"
  let port ← JsonSource.field given "port" none (JsonSource.optional? JsonSource.port?)
  let database ← textField "database"
  let username ← textField "username"
  let password ← textField "password"
  let charset ← textField "charset"
  let role ← textField "role"
  let persistent ← JsonSource.field given "persistent" false JsonSource.bool?
  let results ← JsonSource.field given "results" []
    (JsonSource.sorted? (depth - 1) (JsonSource.rows? (depth - 2)))
  return ⟨id, dialect, driver, host, port, database, username, password, charset, role, persistent,
    results⟩

/-- The data source under a name: a name of its own comes first. -/
def named (key : String) (s : DataSource) : DataSource :=
  if s.id.isEmpty then { s with id := key } else s

end DataSource

namespace Config

/-- The fields of a configuration, in order. -/
def fieldNames : List String := ["data_sources", "default"]

/-- The configuration that a value describes, before it is checked. -/
def ofSource? (source : JsonSource) : Option Config := do
  let given ← source.structure? nestingBound fieldNames
  let dataSources ← JsonSource.field given "data_sources" []
    (JsonSource.sorted? (nestingBound - 1) (DataSource.ofSource? (nestingBound - 2)))
  let defaultName ← JsonSource.field given "default" none (JsonSource.optional? JsonSource.text?)
  return ⟨dataSources, defaultName⟩

/-- The data source of a name. -/
def dataSource (c : Config) (name : String) : DbResult DataSource :=
  match Entries.find name c.dataSources with
  | some s => .ok s
  | none => .error (.config (.unknownSource name))

/-- The default data source: the named one, or the only one. -/
def defaultDataSource (c : Config) : DbResult DataSource :=
  match c.defaultName, c.dataSources with
  | some name, _ => c.dataSource name
  | none, [(_, s)] => .ok s
  | none, _ => .error (.config .noDefault)

/-- The data source of a name, or the default one if no name is given. -/
def chosenDataSource (c : Config) : Option String → DbResult DataSource
  | some name => c.dataSource name
  | none => c.defaultDataSource

/-- The configuration with every data source named and the default checked. -/
def checked (c : Config) : DbResult Config :=
  let named : Config := ⟨c.dataSources.map fun s => (s.1, s.2.named s.1), c.defaultName⟩
  match c.defaultName with
  | some name =>
    if (Entries.find name named.dataSources).isSome then .ok named
    else .error (.config (.undefinedDefault name))
  | none => .ok named

/-- The configuration that a text describes. -/
def ofText (s : String) : DbResult Config :=
  match (JsonSource.ofText? s).bind ofSource? with
  | some c => c.checked
  | none => .error .invalidJson

/-- The configuration that a file describes, given its bytes if it can be read at all. -/
def ofFile (contents : Option ByteArray) : DbResult Config :=
  match contents.bind String.fromUTF8? with
  | some s => ofText s
  | none => .error .unreadableFile

end Config

/-! ## Writing -/

/-- A text, or null. -/
def Json.ofOption (s : Option String) : Json :=
  match s with
  | some s => .string s
  | none => .null

/-- Canned rows as JSON. -/
def JsonRows.toJson (rows : JsonRows) : Json := .array (rows.map Json.object)

/-- A data source as JSON; canned results are left out if there are none. -/
def DataSource.toJson (s : DataSource) : Json :=
  let port := match s.port with
    | some n => Json.number (.natural (UInt64.ofNat n.toNat))
    | none => .null
  let results := if s.results.isEmpty then []
    else [("results", Json.object (s.results.map fun r => (r.1, JsonRows.toJson r.2)))]
  .object ([("id", .string s.id), ("dialect", .string s.dialect.name),
    ("driver", .ofOption s.driver), ("host", .ofOption s.host), ("port", port),
    ("database", .ofOption s.database), ("username", .ofOption s.username),
    ("password", .ofOption s.password), ("charset", .ofOption s.charset),
    ("role", .ofOption s.role), ("persistent", .bool s.persistent)] ++ results)

/-- A configuration as JSON. -/
def Config.toJson (c : Config) : Json :=
  .object [("data_sources", .object (c.dataSources.map fun s => (s.1, s.2.toJson))),
    ("default", .ofOption c.defaultName)]

end SqlBuilder
