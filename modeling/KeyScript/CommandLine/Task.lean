import KeyScript.CommandLine.Shell
import KeyScript.CommandLine.Start
import KeyScript.Manual.Fetch
import KeyScript.Settings

/-! Carrying out a task of the command line. -/
namespace KeyScript.CommandLine

structure Report where
  output : String
  result : Except Fault Unit
  disk : Disk
  /-- The pages that were asked for, when the task fetches some. -/
  visits : List Manual.Visit
  directory : Option String

def Report.said (disk : Disk) (output : String) : Report := ⟨output, .ok (), disk, [], none⟩

def Report.failed (disk : Disk) (output : String) (fault : Fault) : Report :=
  ⟨output, .error fault, disk, [], none⟩

def versionText : String := programName ++ " version " ++ version ++ "\nRust version: 1.91\n"

/-- The settings file that the options name, else the one at its default place. -/
def Options.configPath (home : Option String) (o : Options) : String :=
  o.configFile.getD (Settings.defaultPath home)

def validation (home : Option String) (disk : Disk) (path : String) : String :=
  let verdict :=
    if !disk.pathExists path then "❌ Configuration file does not exist"
    else match Settings.fromFile home disk path with
      | .error fault => "❌ Failed to load configuration: " ++ fault.message
      | .ok settings =>
        match settings.validate with
        | .ok () => "✅ Configuration is valid"
        | .error fault => "❌ Configuration validation failed: " ++ fault.message
  "Validating configuration file: " ++ path ++ "\n" ++ verdict ++ "\n"

def shownSettings (path : String) (s : Settings) : String :=
  "Configuration file: " ++ path ++ "\n\n=== Effective Configuration ===\n\n" ++ s.render ++ "\n"

def summaryText (summary : Manual.Summary) : String :=
  let count := fun n : Nat => String.ofList (Text.decimal n)
  let failures :=
    if summary.failed.isEmpty then ""
    else "❌ " ++ count summary.failed.length ++ " commands failed: " ++
      ", ".intercalate summary.failed ++ "\n"
  "✅ Wrote " ++ count summary.written ++ " files\n" ++ failures

/-- Fetches the pages of all commands. -/
def fetchAll (source : Manual.Source) (s : Settings) (directory url : Option String) (disk : Disk) :
    Report :=
  match directory <|> s.documentation.directory with
  | none => .failed disk "" (.settings (.invalidValue "documentation.directory" ""))
  | some directory =>
    let announced := "Fetching documentation into " ++ directory ++ "\n"
    match Manual.fetch source (url.getD s.documentation.sourceUrl) directory Vocabulary.commands
        disk with
    | .error fault => .failed disk announced fault
    | .ok (visits, disk) =>
      ⟨announced ++ summaryText (.ofVisits visits), .ok (), disk, visits, some directory⟩

def perform (home : Option String) (source : Manual.Source) (o : Options) (s : Settings)
    (disk : Disk) : Task → Report
  | .version => .said disk versionText
  | .completion shell =>
    match Shell.ofName shell with
    | .ok shell => .said disk (shell.script programName)
    | .error fault => .failed disk "" fault
  | .config shown checked =>
    let path := o.configPath home
    .said disk ((if checked then validation home disk path else "") ++
      if shown then shownSettings path s else "")
  | .fetchPages directory url => fetchAll source s directory url disk

end KeyScript.CommandLine
