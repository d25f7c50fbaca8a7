import KeyScript.CommandLine.Options
import KeyScript.Text.Digits

/-! Reading the command line from left to right. An option that takes a value is
pending until the next option or the end, and only then is its value examined; the
words behind a task's name belong to the task and are examined before that. -/
namespace KeyScript.CommandLine

inductive Stop where
  | help
  | version
  /-- A task is missing where one is needed; this shows the help. -/
  | taskMissing
  | unknownOption
  | unknownTask
  | wordMissing
  | valueMissing
  | valueRefused
  | valueUnexpected
  | repeated
  deriving DecidableEq

structure Reading where
  given : List (Flag × String)
  /-- The last option that takes a value, and its value if that was there. -/
  pending : Option (Flag × Option String)
  word : Option String
  wordsOnly : Bool

def Reading.empty : Reading := ⟨[], none, none, false⟩

/-- A whole number of thirty-two bits; zero may have a minus sign. -/
def index? (value : String) : Option UInt32 :=
  match Text.intOf? value.toList with
  | some (.ofNat n) => if n < UInt32.size then some (UInt32.ofNat n) else none
  | _ => none

def examine (flag : Flag) (value : String) : Except Stop Unit :=
  match flag.argument with
  | .path => if value.isEmpty then .error .valueMissing else .ok ()
  | .number =>
    if (index? value).isSome then .ok () else .error .valueRefused
  | _ => .ok ()

namespace Reading

def has (r : Reading) (flag : Flag) : Bool := r.given.any (·.1 == flag)

/-- Takes an option with its value; no option is taken twice. -/
def take (r : Reading) (flag : Flag) (value : String) : Except Stop Reading :=
  if r.has flag then .error .repeated
  else (examine flag value).map fun _ => { r with given := (flag, value) :: r.given }

def settle (r : Reading) : Except Stop Reading :=
  match r.pending with
  | none => .ok r
  | some (_, none) => .error .valueMissing
  | some (flag, some value) => { r with pending := none }.take flag value

def awaits (r : Reading) : Bool :=
  match r.pending with
  | some (_, none) => true
  | _ => false

def takeBare (r : Reading) (flag : Flag) : Except Stop Reading :=
  match r.settle with
  | .error stop => .error stop
  | .ok r =>
    match flag with
    | .help => .error .help
    | .showVersion => .error .version
    | flag => r.take flag ""

def takeAttached (r : Reading) (flag : Flag) (value : String) : Except Stop Reading :=
  match r.settle with
  | .error stop => .error stop
  | .ok r => r.take flag value

def hold (r : Reading) (flag : Flag) : Except Stop Reading :=
  r.settle.map fun r => { r with pending := some (flag, none) }

def longOption (level : Level) (r : Reading) (body : List Char) : Except Stop Reading :=
  let name := String.ofList (body.takeWhile (· != '='))
  match level.flags.find? (·.long == name) with
  | none => .error .unknownOption
  | some flag =>
    match flag.argument, body.dropWhile (· != '=') with
    | .nothing, [] => r.takeBare flag
    | .nothing, _ :: _ => .error .valueUnexpected
    | _, [] => r.hold flag
    | _, _ :: value => r.takeAttached flag (String.ofList value)

/-- One dash and letters. What follows a letter that takes a value is its value,
and an equality sign between them is dropped. -/
def shortOptions (level : Level) : List Char → Reading → Except Stop Reading
  | [], r => .ok r
  | c :: rest, r =>
    match level.flags.find? (·.short == some c) with
    | none => .error .unknownOption
    | some flag =>
      if flag.argument = .nothing then
        match r.takeBare flag with
        | .error stop => .error stop
        | .ok r => shortOptions level rest r
      else match rest with
        | [] => r.hold flag
        | '=' :: value => r.takeAttached flag (String.ofList value)
        | value => r.takeAttached flag (String.ofList value)

/-- A word where none is expected. Behind two dashes the name of a task is no task. -/
def strayWord (level : Level) (r : Reading) (word : String) : Stop :=
  if level.children.isEmpty then .unknownOption
  else if r.wordsOnly && (word == "help" || level.children.any (·.1 == word)) then .unknownOption
  else .unknownTask

def plainWord (level : Level) (r : Reading) (word : String) : Except Stop Reading :=
  match r.pending with
  | some (flag, none) =>
    if r.wordsOnly then .error (strayWord level r word)
    else .ok { r with pending := some (flag, some word) }
  | _ =>
    if level.takesWord && r.word.isNone then r.settle.map fun r => { r with word := some word }
    else .error (strayWord level r word)

end Reading

def child? (level : Level) (r : Reading) (word : String) : Option Level :=
  if r.wordsOnly || r.awaits then none else level.children.lookup word

def helpFor : Level → List String → Stop
  | _, [] => .help
  | level, word :: rest =>
    match level.children.lookup word with
    | some inner => helpFor inner rest
    | none => if word == "help" && !level.children.isEmpty then helpFor .version rest else .unknownTask

def Reading.argument (level : Level) (r : Reading) (arg : String) : Except Stop Reading :=
  if r.wordsOnly then r.plainWord level arg
  else match arg.toList with
    | ['-', '-'] => .ok { r with wordsOnly := true }
    | '-' :: '-' :: body => r.longOption level body
    | '-' :: c :: rest => r.shortOptions level (c :: rest)
    | _ => r.plainWord level arg

def taskOf (level : Level) (r : Reading) : Except Stop (Option Task) :=
  match level with
  | .top => .ok none
  | .version => .ok (some .version)
  | .completion =>
    match r.word with
    | some shell => .ok (some (.completion shell))
    | none => .error .wordMissing
  | .config => .ok (some (.config (r.has .display) (r.has .validate)))
  | .docs => .error .taskMissing
  | .fetch => .ok (some (.fetchPages (r.given.lookup .directory) (r.given.lookup .source)))

/-- What one level comes to: its own options, and the task that follows. -/
def readLevel (level : Level) (r : Reading) : List String → Except Stop (Reading × Option Task)
  | [] =>
    match r.settle with
    | .error stop => .error stop
    | .ok r => (taskOf level r).map (r, ·)
  | arg :: rest =>
    match child? level r arg with
    | some inner =>
      match readLevel inner .empty rest with
      | .error stop => .error stop
      | .ok (_, task) => r.settle.map (·, task)
    | none =>
      if arg == "help" && !level.children.isEmpty && !r.wordsOnly && !r.awaits then
        .error (helpFor level rest)
      else match r.argument level arg with
        | .error stop => .error stop
        | .ok r => readLevel level r rest

def parse (args : List String) : Except Stop Options :=
  (readLevel .top .empty args).map fun (r, task) =>
    { address := r.given.lookup .address
      username := r.given.lookup .username
      password := r.given.lookup .password
      database := (r.given.lookup .database).bind index?
      cacheNames := r.has .cacheNames
      logFile := r.given.lookup .logFile
      debug := r.has .debug
      configFile := r.given.lookup .configFile
      quiet := r.has .quiet
      verbose := r.has .verbose
      veryVerbose := r.has .veryVerbose
      task }

end KeyScript.CommandLine
