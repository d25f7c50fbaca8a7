import KeyScript.Program
import KeyScript.Proofs.Connection.Addresses

/-! The settings that the program serves with are valid. Those of the file are read from
the disk and examined before the options of the command line take their place, and the
options are not examined. Of what is examined they can replace the address only, and a blank
address is refused when the endpoint is read from it. -/
namespace KeyScript

namespace Settings

/-- What is examined of the settings. -/
structure Valid (s : Settings) : Prop where
  address : Text.isAllBlank s.connection.address = false
  timeout : s.connection.timeout ≠ 0
  scanCount : s.cache.scanCount ≠ 0
  sourceUrl : isWebUrl s.documentation.sourceUrl = true
  users : ∀ trigger ∈ s.completion.users, Text.isAllBlank trigger = false
  keys : ∀ trigger ∈ s.completion.keys, Text.isAllBlank trigger = false

theorem ite_some_eq_none_iff {p : Prop} [Decidable p] {rest : Option α} :
    (if p then some a else rest) = none ↔ ¬p ∧ rest = none := by
  by_cases holds : p <;> simp [holds]

theorem invalid?_eq_none_iff {s : Settings} : s.invalid? = none ↔ Valid s := by
  constructor
  · intro none
    simp only [invalid?, ite_some_eq_none_iff, Bool.not_eq_true, Bool.not_eq_false'] at none
    obtain ⟨address, timeout, scanCount, sourceUrl, triggers⟩ := none
    cases users : s.completion.users.find? Text.isAllBlank with
    | some trigger => simp [users] at triggers
    | none =>
      rw [users] at triggers
      exact ⟨address, timeout, scanCount, sourceUrl, by simpa using users, by simpa using triggers⟩
  · intro valid
    have users : s.completion.users.find? Text.isAllBlank = none := by simpa using valid.users
    have keys : s.completion.keys.find? Text.isAllBlank = none := by simpa using valid.keys
    simp [invalid?, valid.address, valid.timeout, valid.scanCount, valid.sourceUrl, users, keys]

theorem validate_eq_ok_iff {s : Settings} : s.validate = .ok () ↔ Valid s := by
  rw [← invalid?_eq_none_iff, validate]
  cases s.invalid? with
  | none => simp
  | some pair => simp

theorem valid_standard (home : Option String) : Valid (standard home) where
  address := show Text.isAllBlank ConnectionSettings.standard.address = false by decide +kernel
  timeout := show ConnectionSettings.standard.timeout ≠ 0 by decide
  scanCount := show CacheSettings.standard.scanCount ≠ 0 by decide
  sourceUrl := show isWebUrl (DocumentationSettings.standard none).sourceUrl = true by
    decide +kernel
  users := show ∀ trigger ∈ Completion.Triggers.standard.users, Text.isAllBlank trigger = false by
    decide +kernel
  keys := show ∀ trigger ∈ Completion.Triggers.standard.keys, Text.isAllBlank trigger = false by
    decide +kernel

/-- The file at the path is there, and holds these settings. -/
def InFile (home : Option String) (disk : Disk) (path : String) (s : Settings) : Prop :=
  disk.pathExists path = true ∧ ∃ text, disk.read path = .ok text ∧ parse home text = .ok s

/-- The settings that are loaded: those of the file that was asked for, else of the one at its
default place, else the standard ones if no file is there. -/
inductive Loaded (home : Option String) (disk : Disk) : Option String → Settings → Prop where
  | asked : InFile home disk path s → Loaded home disk (some path) s
  | found : InFile home disk (defaultPath home) s → Loaded home disk none s
  | absent : disk.pathExists (defaultPath home) = false → Loaded home disk none (standard home)

theorem fromFile_eq_ok_iff : fromFile home disk path = .ok s ↔ InFile home disk path s := by
  rw [fromFile, InFile]
  split
  · rename_i there
    rw [there]
    cases disk.read path <;> simp
  · rename_i absent
    simp [absent]

theorem load_eq_ok_iff : load home disk choice = .ok s ↔ Loaded home disk choice s := by
  cases choice with
  | some path =>
    rw [load, fromFile_eq_ok_iff]
    exact ⟨.asked, fun | .asked there => there⟩
  | none =>
    rw [load]
    by_cases there : disk.pathExists (defaultPath home) = true
    · rw [if_pos there, fromFile_eq_ok_iff]
      constructor
      · exact .found
      · rintro (_ | inside | absent)
        · exact inside
        · rw [there] at absent
          cases absent
    · rw [if_neg there]
      constructor
      · intro same
        obtain rfl := Except.ok.inj same
        exact .absent (Bool.eq_false_iff.mpr there)
      · rintro (_ | inside | absent)
        · exact absurd inside.1 there
        · rfl

end Settings

namespace Connection

/-- A blank address leads nowhere. -/
theorem address_of_endpoint {s : ConnectionSettings} (read : endpoint s = .ok e) :
    Text.isAllBlank s.address = false := by
  rw [Bool.eq_false_iff]
  intro blank
  have none : Text.trimmed s.address.toList = [] :=
    Text.trimmed_eq_nil (List.all_eq_true.mp blank)
  simp [endpoint, parseAddress, none, parseTrimmed?] at read

end Connection

namespace CommandLine

/-- No option asks for a level of the log. -/
def Options.isNeutral (o : Options) : Bool := !(o.veryVerbose || o.verbose || o.debug || o.quiet)

/-- Every setting that no option replaces is that of `base`. -/
structure Kept (o : Options) (base s : Settings) : Prop where
  address : o.address = none → s.connection.address = base.connection.address
  username : o.username = none → s.connection.username = base.connection.username
  password : o.password = none → s.connection.password = base.connection.password
  database : o.database = none → s.connection.database = base.connection.database
  timeout : s.connection.timeout = base.connection.timeout
  enabled : o.cacheNames = false → s.cache.enabled = base.cache.enabled
  scanCount : s.cache.scanCount = base.cache.scanCount
  completion : s.completion = base.completion
  documentation : s.documentation = base.documentation
  level : o.isNeutral = true → s.logging.level = base.logging.level
  filePath : o.logFile = none → s.logging.filePath = base.logging.filePath
  timestamps : s.logging.timestamps = base.logging.timestamps

theorem kept_apply (o : Options) (base : Settings) : Kept o base (o.apply base) where
  address none := by simp [Options.apply, none]
  username none := by simp [Options.apply, none]
  password none := by simp [Options.apply, none]
  database none := by simp [Options.apply, none]
  timeout := rfl
  enabled none := by simp [Options.apply, none]
  scanCount := rfl
  completion := rfl
  documentation := rfl
  level none := by simp_all [Options.apply, Options.level, Options.isNeutral]
  filePath none := by simp [Options.apply, none]
  timestamps := rfl

theorem start_of_load (loaded : Settings.load home disk o.configFile = .ok file) :
    start home disk o = .ok ⟨o.apply (accepted home file).1, (accepted home file).2⟩ := by
  rw [start, loaded]
  rfl

/-- What stands under the options: the settings of the file, if they are valid. -/
theorem start_eq (started : start home disk o = .ok begun) :
    ∃ file base, Settings.Loaded home disk o.configFile file ∧
      begun.settings = o.apply base ∧ base.Valid ∧
      (file.Valid → base = file) ∧ (¬ file.Valid → base = .standard home) := by
  cases load : Settings.load home disk o.configFile with
  | error fault => simp [start, load, Except.map] at started
  | ok file =>
    obtain rfl := Except.ok.inj ((start_of_load load).symm.trans started)
    have loaded := Settings.load_eq_ok_iff.mp load
    by_cases valid : file.Valid
    · have examined := Settings.validate_eq_ok_iff.mpr valid
      refine ⟨file, file, loaded, ?_, valid, fun _ => rfl, fun invalid => absurd valid invalid⟩
      simp [accepted, examined]
    · refine ⟨file, .standard home, loaded, ?_, Settings.valid_standard home,
        fun holds => absurd holds valid, fun _ => rfl⟩
      cases examined : file.validate with
      | ok => exact absurd (Settings.validate_eq_ok_iff.mp examined) valid
      | error fault => simp [accepted, examined]

/-- The options replace nothing that is examined but the address. -/
theorem Kept.valid (kept : Kept o base s) (valid : base.Valid)
    (address : Text.isAllBlank s.connection.address = false) : s.Valid where
  address := address
  timeout := kept.timeout ▸ valid.timeout
  scanCount := kept.scanCount ▸ valid.scanCount
  sourceUrl := kept.documentation ▸ valid.sourceUrl
  users := kept.completion ▸ valid.users
  keys := kept.completion ▸ valid.keys

theorem start_valid (started : start home disk o = .ok begun)
    (read : Connection.endpoint begun.settings.connection = .ok e) : begun.settings.Valid := by
  obtain ⟨file, base, _, same, valid, _⟩ := start_eq started
  rw [same] at read ⊢
  exact (kept_apply o base).valid valid (Connection.address_of_endpoint read)

/-- When the settings are found and lead to an endpoint they are valid. The settings of the
file are read from the disk, and are the standard ones only where no file was asked for and
none is there. Each setting that no option replaces is that of the file if all of the file is
valid, else the standard one. -/
theorem validate_start (started : start home disk o = .ok begun)
    (read : Connection.endpoint begun.settings.connection = .ok e) :
    begun.settings.validate = .ok () ∧
    ∃ file, Settings.Loaded home disk o.configFile file ∧
      (file.validate = .ok () → Kept o file begun.settings) ∧
      (file.validate ≠ .ok () → Kept o (.standard home) begun.settings) := by
  obtain ⟨file, base, loaded, same, valid, own, other⟩ := start_eq started
  refine ⟨Settings.validate_eq_ok_iff.mpr (start_valid started read), file, loaded, ?_, ?_⟩
  · intro examined
    rw [same, own (Settings.validate_eq_ok_iff.mp examined)]
    exact kept_apply o file
  · intro refused
    rw [same, other (mt Settings.validate_eq_ok_iff.mpr refused)]
    exact kept_apply o (.standard home)

/-- A disk with a settings file at its default place, and the settings of that file. -/
def withFile (seconds : String) : Disk :=
  Disk.empty.place ".redis-lsp/config.toml" (Text.utf8
    ("connection.timeout = " ++ seconds ++ "\ncompletion.key_triggers = [\"HGETALL\"]\n"))

def ofFile (seconds : UInt64) : Settings :=
  { Settings.standard none with
    connection := { ConnectionSettings.standard with timeout := seconds }
    completion := { Completion.Triggers.standard with keys := ["HGETALL"] } }

def elsewhere : Options :=
  ⟨some "[::1]:7000", none, none, none, false, none, false, none, true, false, false, none⟩

/-- A file that leaves time to connect is in force. In one that leaves none the trigger does
not count either. -/
theorem validate_start_timeout :
    (∃ begun, start none (withFile "9") elsewhere = .ok begun ∧
      Connection.endpoint begun.settings.connection = .ok ⟨.host "::1" 7000, 0, none, none⟩ ∧
      begun.settings.connection.timeout = 9 ∧ begun.settings.completion.keys = ["HGETALL"] ∧
      begun.settings.validate = .ok ()) ∧
    ∃ begun, start none (withFile "0") elsewhere = .ok begun ∧
      Connection.endpoint begun.settings.connection = .ok ⟨.host "::1" 7000, 0, none, none⟩ ∧
      begun.settings.connection.timeout = 5 ∧ begun.settings.completion = .standard ∧
      begun.settings.validate = .ok () := by
  have inForce : Settings.load none (withFile "9") none = .ok (ofFile 9) ∧
      (ofFile 9).validate = .ok () := by decide +kernel
  have refused : Settings.load none (withFile "0") none = .ok (ofFile 0) ∧
      (ofFile 0).validate ≠ .ok () := by decide +kernel
  constructor
  · have started := start_of_load (o := elsewhere) inForce.1
    have read : Connection.endpoint (elsewhere.apply (accepted none (ofFile 9)).1).connection =
        .ok ⟨.host "::1" 7000, 0, none, none⟩ := by decide +kernel
    obtain ⟨valid, file, loaded, own, -⟩ := validate_start started read
    obtain rfl : ofFile 9 = file :=
      Except.ok.inj (inForce.1.symm.trans (Settings.load_eq_ok_iff.mpr loaded))
    have kept := own inForce.2
    exact ⟨_, started, read, kept.timeout, congrArg (·.keys) kept.completion, valid⟩
  · have started := start_of_load (o := elsewhere) refused.1
    have read : Connection.endpoint (elsewhere.apply (accepted none (ofFile 0)).1).connection =
        .ok ⟨.host "::1" 7000, 0, none, none⟩ := by decide +kernel
    obtain ⟨valid, file, loaded, -, other⟩ := validate_start started read
    obtain rfl : ofFile 0 = file :=
      Except.ok.inj (refused.1.symm.trans (Settings.load_eq_ok_iff.mpr loaded))
    have kept := other refused.2
    exact ⟨_, started, read, kept.timeout, kept.completion, valid⟩

end CommandLine

namespace Program
variable {around : Surroundings π} {serving : Serving π}

theorem endpoint_of_proceed (served : proceed around o s logger warning disk = .ok serving) :
    ∃ e, Connection.endpoint s.connection = .ok e ∧
      serving = .start around s e logger warning disk := by
  rw [proceed] at served
  cases task : o.task with
  | some task => simp [task] at served
  | none =>
    cases read : Connection.endpoint s.connection with
    | error fault => simp [task, read] at served
    | ok e =>
      simp only [task, read] at served
      exact ⟨e, rfl, (Except.ok.inj served).symm⟩

/-- The program serves with valid settings only. -/
theorem launch_valid (launched : launch around args = .ok serving) :
    ∃ o begun, CommandLine.parse args = .ok o ∧
      CommandLine.start around.home around.disk o = .ok begun ∧ begun.settings.Valid ∧
      serving.services.triggers = begun.settings.completion ∧
      serving.services.manual = ⟨begun.settings.documentation.directory⟩ := by
  rw [launch] at launched
  cases parsed : CommandLine.parse args with
  | error stop => simp [parsed] at launched
  | ok o =>
    cases started : CommandLine.start around.home around.disk o with
    | error fault => simp [parsed, started] at launched
    | ok begun =>
      simp only [parsed, started] at launched
      split at launched
      · contradiction
      · split at launched
        · contradiction
        · obtain ⟨e, read, rfl⟩ := endpoint_of_proceed launched
          exact ⟨o, begun, rfl, started, CommandLine.start_valid started read, rfl, rfl⟩

end Program

end KeyScript
