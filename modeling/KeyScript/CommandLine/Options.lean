import KeyScript.Settings

/-! What can be asked for on the command line. -/
namespace KeyScript.CommandLine

/-- A task that is carried out instead of serving an editor. -/
inductive Task where
  | version
  | completion (shell : String)
  | config (display validate : Bool)
  | fetchPages (directory source : Option String)
  deriving DecidableEq

structure Options where
  address : Option String
  username : Option String
  password : Option String
  database : Option UInt32
  cacheNames : Bool
  logFile : Option String
  debug : Bool
  configFile : Option String
  quiet : Bool
  verbose : Bool
  veryVerbose : Bool
  task : Option Task
  deriving DecidableEq

inductive Argument where
  | nothing
  | text
  /-- A path, which is not empty. -/
  | path
  /-- A number of thirty-two bits. -/
  | number
  deriving DecidableEq

inductive Flag where
  | address
  | username
  | password
  | database
  | cacheNames
  | logFile
  | debug
  | configFile
  | quiet
  | verbose
  | veryVerbose
  | showVersion
  | help
  | display
  | validate
  | directory
  | source
  deriving DecidableEq

namespace Flag

/-- The name behind two dashes. -/
def long : Flag → String
  | address => "address"
  | username => "username"
  | password => "password"
  | database => "database"
  | cacheNames => "db-cache"
  | logFile => "log-file"
  | debug => "debug"
  | configFile => "config"
  | quiet => "quiet"
  | verbose => "verbose"
  | veryVerbose => "vv"
  | showVersion => "version"
  | help => "help"
  | display => "show"
  | validate => "validate"
  | directory => "directory"
  | source => "source"

def short : Flag → Option Char
  | configFile => some 'c'
  | quiet => some 'q'
  | verbose => some 'v'
  | showVersion => some 'V'
  | help => some 'h'
  | _ => none

def argument : Flag → Argument
  | address | username | password | source => .text
  | database => .number
  | logFile | configFile | directory => .path
  | _ => .nothing

end Flag

/-- A place in the tree of tasks. -/
inductive Level where
  | top
  | version
  | completion
  | config
  | docs
  | fetch
  deriving DecidableEq

namespace Level

def flags : Level → List Flag
  | top => [.address, .username, .password, .database, .cacheNames, .logFile, .debug, .configFile,
      .quiet, .verbose, .veryVerbose, .help, .showVersion]
  | version => [.help]
  | completion => [.help]
  | config => [.display, .validate, .help]
  | docs => [.help]
  | fetch => [.directory, .source, .help]

def children : Level → List (String × Level)
  | top => [("version", version), ("completion", completion), ("config", config), ("docs", docs)]
  | docs => [("fetch", fetch)]
  | _ => []

/-- One word is expected that is not an option. -/
def takesWord : Level → Bool
  | completion => true
  | _ => false

end Level

end KeyScript.CommandLine
