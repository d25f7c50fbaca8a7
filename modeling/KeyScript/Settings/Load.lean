import KeyScript.Disk
import KeyScript.Settings
import KeyScript.Toml.Printer
import KeyScript.Toml.Reader

/-! Settings as a TOML document, and from the file tree. Options that are not chosen are
left out; what is left out of a document is read as the standard choice. -/
namespace KeyScript.Settings

open Toml

/-- Where the fields of a section come from: entries by name, or items in the
order of the fields. -/
inductive Fields where
  | named (entries : List (String × Value))
  | ordered (items : List Value)

def Fields.get? (fields : Fields) (index : Nat) (name : String) : Option Value :=
  match fields with
  | .named entries => lookup name entries
  | .ordered items => items[index]?

/-- A section may be left out. One that is there is a table or an array; a date or a
time counts as a table of entries that no section knows. -/
def fields? (name : String) (document : List (String × Value)) : Option Fields :=
  match lookup name document with
  | none => some (.named [])
  | some (.table entries) => some (.named entries)
  | some (.array items) => some (.ordered items)
  | some (.datetime _) => some (.named [])
  | some _ => none

/-- A field that is left out has its standard value; one that is there must fit. -/
def field? (fields : Fields) (index : Nat) (name : String) (read : Value → Option α)
    (standard : α) : Option α :=
  match fields.get? index name with
  | none => some standard
  | some value => read value

def optional (read : Value → Option α) (value : Value) : Option (Option α) := (read value).map some

def word32? (value : Value) : Option UInt32 := (value.nat? (UInt32.size - 1)).map UInt32.ofNat

def word64? (value : Value) : Option UInt64 := (value.nat? (UInt64.size - 1)).map UInt64.ofNat

def connection? (f : Fields) : Option ConnectionSettings := do
  let standard := ConnectionSettings.standard
  let address ← field? f 0 "address" Value.string? standard.address
  let username ← field? f 1 "username" (optional Value.string?) standard.username
  let password ← field? f 2 "password" (optional Value.string?) standard.password
  let database ← field? f 3 "database" word32? standard.database
  let timeout ← field? f 4 "timeout" word64? standard.timeout
  some { address, username, password, database, timeout }

def cache? (f : Fields) : Option CacheSettings := do
  let standard := CacheSettings.standard
  let enabled ← field? f 0 "enabled" Value.boolean? standard.enabled
  let scanCount ← field? f 1 "scan_count" word64? standard.scanCount
  some { enabled, scanCount }

def completion? (f : Fields) : Option Completion.Triggers := do
  let standard := Completion.Triggers.standard
  let users ← field? f 0 "user_triggers" Value.strings? standard.users
  let keys ← field? f 1 "key_triggers" Value.strings? standard.keys
  some { users, keys }

def documentation? (home : Option String) (f : Fields) : Option DocumentationSettings := do
  let standard := DocumentationSettings.standard home
  let directory ← field? f 0 "directory" (optional Value.string?) standard.directory
  let sourceUrl ← field? f 1 "source_url" Value.string? standard.sourceUrl
  some { directory, sourceUrl }

/-- A level by its word, which may also be the one key of a table that leads to nothing. -/
def level? : Value → Option LogLevel
  | .string word => LogLevel.ofWord? word
  | .table [(word, .table [])] => LogLevel.ofWord? word
  | .table [(word, .array [])] => LogLevel.ofWord? word
  | _ => none

def logging? (f : Fields) : Option LogSettings := do
  let standard := LogSettings.standard
  let level ← field? f 0 "level" level? standard.level
  let filePath ← field? f 1 "file_path" (optional Value.string?) standard.filePath
  let timestamps ← field? f 2 "timestamps" Value.boolean? standard.timestamps
  some { level, filePath, timestamps }

def ofTree? (home : Option String) (document : List (String × Value)) : Option Settings := do
  let connection ← (fields? "connection" document).bind connection?
  let cache ← (fields? "cache" document).bind cache?
  let completion ← (fields? "completion" document).bind completion?
  let documentation ← (fields? "documentation" document).bind (documentation? home)
  let logging ← (fields? "logging" document).bind logging?
  some { connection, cache, completion, documentation, logging }

def chosen (name : String) : Option String → List (String × Value)
  | some s => [(name, .string s)]
  | none => []

def strings (items : List String) : Value := .array (items.map .string)

def tree (s : Settings) : List (String × Value) :=
  [ ("connection", .table
      ([("address", .string s.connection.address)] ++
        chosen "username" s.connection.username ++ chosen "password" s.connection.password ++
        [("database", .integer s.connection.database.toNat),
          ("timeout", .integer s.connection.timeout.toNat)])),
    ("cache", .table
      [("enabled", .boolean s.cache.enabled), ("scan_count", .integer s.cache.scanCount.toNat)]),
    ("completion", .table
      [("user_triggers", strings s.completion.users), ("key_triggers", strings s.completion.keys)]),
    ("documentation", .table
      (chosen "directory" s.documentation.directory ++
        [("source_url", .string s.documentation.sourceUrl)])),
    ("logging", .table
      ([("level", .string s.logging.level.word)] ++ chosen "file_path" s.logging.filePath ++
        [("timestamps", .boolean s.logging.timestamps)])) ]

def render (s : Settings) : String := Toml.render s.tree

def parse (home : Option String) (text : String) : Except Fault Settings :=
  match (Toml.parse? text).bind (ofTree? home) with
  | some settings => .ok settings
  | none => .error (.settings (.invalidFormat "not a document of settings"))

/-- Settings of a file that must be there. -/
def fromFile (home : Option String) (disk : Disk) (path : String) : Except Fault Settings :=
  if disk.pathExists path then
    match disk.read path with
    | .ok text => parse home text
    | .error fault => .error (.io fault)
  else .error (.settings (.fileNotFound path))

/-- Settings of the file that was asked for, else of the file at its default place,
which need not be there. -/
def load (home : Option String) (disk : Disk) : Option String → Except Fault Settings
  | some path => fromFile home disk path
  | none =>
    let path := defaultPath home
    if disk.pathExists path then fromFile home disk path else .ok (standard home)

end KeyScript.Settings
