import KeyScript.Manual
import KeyScript.Manual.Request

/-! Filling a manual from a source of pages, one request for each label. A page that
cannot be fetched or written is noted, and the rest is fetched all the same. -/
namespace KeyScript.Manual

/-- What a request for a URL is answered with. -/
abbrev Source := String → Except Fault String

/-- No request gets through. -/
def Source.unreachable : Source := fun url =>
  .error (.http (match Request.make url with
    | .ok request => "error sending request for url (" ++ request.url ++ ")"
    | .error flaw => flaw.text))

/-- What became of one label: the file that was written, or why there is none. -/
structure Visit where
  label : String
  /-- The request for its page, if one could be made. -/
  request : Option Request
  result : Except Fault String

def Visit.isWritten (v : Visit) : Bool :=
  match v.result with
  | .ok _ => true
  | .error _ => false

structure Summary where
  written : Nat
  failed : List String
  deriving DecidableEq

def Summary.ofVisits (visits : List Visit) : Summary :=
  { written := visits.countP Visit.isWritten
    failed := (visits.filter (!·.isWritten)).map (·.label) }

def baseUrl (url : String) : String :=
  String.ofList (url.toList.reverse.dropWhile (· == '/')).reverse

def pageUrl? (url label : String) : Option String :=
  (pageName? label).map fun name => baseUrl url ++ "/" ++ name

/-- Fetches and writes one page; gives the path of its file. -/
def fetchPage (source : Source) (url directory label : String) (disk : Disk) :
    Except Fault (String × Disk) :=
  match pageName? label with
  | none => .error (.generic ("'" ++ label ++ "' does not name a documentation file"))
  | some name =>
    match source (baseUrl url ++ "/" ++ name) with
    | .error fault => .error fault
    | .ok body =>
      let path := Path.join directory name
      match disk.write path body with
      | .error fault => .error (.io fault)
      | .ok disk => .ok (path, disk)

def fetchPages (source : Source) (url directory : String) :
    List String → Disk → List Visit × Disk
  | [], disk => ([], disk)
  | label :: rest, disk =>
    let request := (pageUrl? url label).bind fun url => (Request.make url).toOption
    match fetchPage source url directory label disk with
    | .ok (path, disk) =>
      let (visits, disk) := fetchPages source url directory rest disk
      (⟨label, request, .ok path⟩ :: visits, disk)
    | .error fault =>
      let (visits, disk) := fetchPages source url directory rest disk
      (⟨label, request, .error fault⟩ :: visits, disk)

/-- Makes the directory and fills it. Only a directory that cannot be made stops this. -/
def fetch (source : Source) (url directory : String) (labels : List String) (disk : Disk) :
    Except Fault (List Visit × Disk) :=
  match disk.makeDirectory directory with
  | .error fault => .error (.io fault)
  | .ok disk => .ok (fetchPages source url directory labels disk)

end KeyScript.Manual
