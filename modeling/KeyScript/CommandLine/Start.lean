import KeyScript.CommandLine.Options
import KeyScript.Settings.Load

/-! The settings that the program works with: those of the settings file, or the
standard ones when the file's are not valid, and on top of them the command line. -/
namespace KeyScript.CommandLine

/-- The level that the options ask for. The most talkative wins. -/
def Options.level (o : Options) (level : LogLevel) : LogLevel :=
  if o.veryVerbose then .trace
  else if o.verbose || o.debug then .debug
  else if o.quiet then .error
  else level

/-- Settings with the options put in their place. -/
def Options.apply (o : Options) (s : Settings) : Settings :=
  { s with
    connection :=
      { s.connection with
        address := o.address.getD s.connection.address
        username := o.username <|> s.connection.username
        password := o.password <|> s.connection.password
        database := o.database.getD s.connection.database }
    cache := { s.cache with enabled := o.cacheNames || s.cache.enabled }
    logging :=
      { s.logging with
        level := o.level s.logging.level
        filePath := o.logFile <|> s.logging.filePath } }

/-- The settings to work with, and what was wrong with those of the file. -/
structure Start where
  settings : Settings
  warning : Option Fault

/-- The settings of a file when they are valid, else the standard ones. -/
def accepted (home : Option String) (s : Settings) : Settings × Option Fault :=
  match s.validate with
  | .ok () => (s, none)
  | .error fault => (.standard home, some fault)

def start (home : Option String) (disk : Disk) (o : Options) : Except Fault Start :=
  (Settings.load home disk o.configFile).map fun s =>
    let (settings, warning) := accepted home s
    ⟨o.apply settings, warning⟩

def Start.warningText (s : Start) : String :=
  match s.warning with
  | none => ""
  | some fault =>
    "Warning: Configuration validation failed: " ++ fault.message ++
      "\nUsing default configuration instead.\n"

end KeyScript.CommandLine
