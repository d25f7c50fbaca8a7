import KeyScript.Manual.Fetch
import KeyScript.Proofs.Disk.Children

/-! Filling a manual and reading it. A label's file is one step inside the directory, so a
page is written beside the others and read from where it was written. Labels that share a
file share its page. -/
namespace KeyScript.Manual

/-- A file of a manual: some lower-case letters, digits, dashes and underscores, and `.md`. -/
def PageFile (name : String) : Prop :=
  ∃ run : List Char, run ≠ [] ∧ (∀ c ∈ run, c.isLower ∨ c.isDigit ∨ c = '-' ∨ c = '_') ∧
    name = String.ofList run ++ ".md"

/-- The file and the page of a label that names a file, whose page the source has and whose
file can be written on the disk. -/
def served? (source : Source) (url directory : String) (disk : Disk) (label : String) :
    Option (String × String) := do
  let name ← pageName? label
  let page ← (source (baseUrl url ++ "/" ++ name)).toOption
  let _ ← (disk.write (Path.join directory name) page).toOption
  return (name, page)

section Names

theorem isUpper_iff (c : Char) : c.isUpper = true ↔ c.val ≥ 'A'.val ∧ c.val ≤ 'Z'.val :=
  decide_eq_true_iff

theorem isUpper_toLower (c : Char) : c.toLower.isUpper = false := by
  rw [← Bool.not_eq_true, isUpper_iff]
  by_cases upper : c.val ≥ 'A'.val ∧ c.val ≤ 'Z'.val
  · have first : 65 ≤ c.toNat := UInt32.le_iff_toNat_le.mp upper.1
    have moved : c.toLower.toNat = (c.toNat + 32) % 4294967296 :=
      congrArg Char.toNat (dif_pos upper)
    rintro ⟨-, last⟩
    have last : c.toLower.toNat ≤ 90 := UInt32.le_iff_toNat_le.mp last
    have bound := Text.toNat_lt c
    omega
  · have kept : c.toLower = c := dif_neg upper
    rw [kept]
    exact upper

theorem isNameChar_lower (named : isNameChar (lower c) = true) :
    (lower c).isLower ∨ (lower c).isDigit ∨ lower c = '-' ∨ lower c = '_' := by
  have small : (lower c).isUpper = false := by
    rw [lower]
    split
    · rfl
    · exact isUpper_toLower c
  change ((((lower c).isUpper || (lower c).isLower) || (lower c).isDigit) || lower c == '-' ||
    lower c == '_') = true at named
  simpa [small, or_assoc] using named

theorem pageFile_of_pageName? (named : pageName? label = some name) : PageFile name := by
  simp only [pageName?] at named
  split at named
  · cases named
  rename_i valid
  obtain rfl := Option.some.inj named
  simp only [Bool.or_eq_true, not_or, List.isEmpty_iff, Bool.not_eq_true', Bool.not_eq_false,
    List.all_eq_true] at valid
  refine ⟨nameChars label, valid.1, ?_, rfl⟩
  intro c inside
  have fine := valid.2 c inside
  obtain ⟨d, -, rfl⟩ := List.mem_map.mp inside
  split
  · exact Or.inr (Or.inr (Or.inl rfl))
  · rename_i solid
    rw [if_neg solid] at fine
    exact isNameChar_lower fine

theorem PageFile.plain (file : PageFile name) : Path.Plain name := by
  obtain ⟨run, nonempty, fine, rfl⟩ := file
  refine ⟨by simp [nonempty], ?_, ?_, ?_⟩
  · simp only [String.toList_append, String.toList_ofList, List.mem_append, not_or]
    refine ⟨?_, by decide⟩
    intro slash
    exact absurd (fine '/' slash) (by decide)
  · intro same
    have size := congrArg (fun s => s.toList.length) same
    simp [Path.here] at size
  · intro same
    have size := congrArg (fun s => s.toList.length) same
    simp [Path.above] at size

/-- A label's page stands one step inside the directory, wherever the directory is. -/
theorem pagePath_inside {directory : String}
    (found : pagePath ⟨some directory⟩ label = .ok path) :
    ∃ name, pageName? label = some name ∧ PageFile name ∧ path = Path.join directory name ∧
      Path.origin path = Path.origin directory ∧
      Path.steps path = Path.steps directory ++ [name] := by
  cases named : pageName? label with
  | none => simp [pagePath, named] at found
  | some name =>
    obtain rfl : Path.join directory name = path := by simpa [pagePath, named] using found
    have file := pageFile_of_pageName? named
    exact ⟨name, rfl, file, rfl, Path.origin_join file.plain directory,
      Path.steps_join file.plain directory⟩

end Names

section Pages
variable {source : Source} {url directory : String} {outer : List String} {disk : Disk}

theorem toOption_eq_some_iff {result : Except ε α} : result.toOption = some a ↔ result = .ok a := by
  cases result <;> simp [Except.toOption]

theorem served?_eq_some_iff (leads : disk.Leads directory outer) :
    served? source url directory disk label = some (name, page) ↔
      pageName? label = some name ∧ source (baseUrl url ++ "/" ++ name) = .ok page ∧
        disk.obstacle? directory outer name = none := by
  constructor
  · intro served
    obtain ⟨file, named, served⟩ := Option.bind_eq_some_iff.mp served
    obtain ⟨body, answer, served⟩ := Option.bind_eq_some_iff.mp served
    obtain ⟨later, written, same⟩ := Option.bind_eq_some_iff.mp served
    obtain ⟨rfl, rfl⟩ := Prod.mk.inj (Option.some.inj same)
    have written := toOption_eq_some_iff.mp written
    rw [Disk.write_child leads (pageFile_of_pageName? named).plain] at written
    refine ⟨named, toOption_eq_some_iff.mp answer, ?_⟩
    cases free : disk.obstacle? directory outer file with
    | none => rfl
    | some fault => simp [free] at written
  · rintro ⟨named, answer, free⟩
    have written := Disk.write_child leads (pageFile_of_pageName? named).plain page
    rw [free] at written
    simp [served?, named, answer, written, Except.toOption]

/-- Whether a page is served does not depend on what the files hold. -/
theorem served?_congr {later : Disk} (leads : disk.Leads directory outer)
    (alike : disk.Alike later) :
    served? source url directory later = served? source url directory disk := by
  funext label
  apply Option.ext
  rintro ⟨name, page⟩
  rw [served?_eq_some_iff leads, served?_eq_some_iff (alike.leads leads), alike.obstacle?]

/-- One label: its page is stored in its file, or nothing is. -/
theorem fetchPage_cases (leads : disk.Leads directory outer) (source : Source) (url label : String) :
    (∃ name page, served? source url directory disk label = some (name, page) ∧
      fetchPage source url directory label disk =
        .ok (Path.join directory name, disk.stored (outer ++ [name]) page)) ∨
    (served? source url directory disk label = none ∧
      ∃ fault, fetchPage source url directory label disk = .error fault) := by
  rw [fetchPage]
  cases served : served? source url directory disk label with
  | some found =>
    obtain ⟨name, page⟩ := found
    obtain ⟨named, answer, free⟩ := (served?_eq_some_iff leads).mp served
    refine Or.inl ⟨name, page, rfl, ?_⟩
    simp only [named, answer]
    rw [Disk.write_child leads (pageFile_of_pageName? named).plain, free]
  | none =>
    refine Or.inr ⟨rfl, ?_⟩
    split
    · exact ⟨_, rfl⟩
    rename_i name named
    split
    · exact ⟨_, rfl⟩
    rename_i page answer
    dsimp only
    rw [Disk.write_child leads (pageFile_of_pageName? named).plain]
    cases free : disk.obstacle? directory outer name with
    | some fault => exact ⟨_, rfl⟩
    | none =>
      have found := (served?_eq_some_iff leads).mpr ⟨named, answer, free⟩
      rw [served] at found
      cases found

theorem ofVisits_cons (v : Visit) (visits : List Visit) :
    Summary.ofVisits (v :: visits) =
      if v.isWritten then
        ⟨(Summary.ofVisits visits).written + 1, (Summary.ofVisits visits).failed⟩
      else ⟨(Summary.ofVisits visits).written, v.label :: (Summary.ofVisits visits).failed⟩ := by
  cases written : v.isWritten <;> simp [Summary.ofVisits, written]

theorem written_add_failed (visits : List Visit) :
    (Summary.ofVisits visits).written + (Summary.ofVisits visits).failed.length =
      visits.length := by
  induction visits with
  | nil => rfl
  | cons v visits ih =>
    rw [ofVisits_cons, List.length_cons, ← ih]
    split <;> simp +arith

/-- What fetching the pages of labels comes to: each label is visited and fails unless it is
served, each page is in its file, and no other file has changed. -/
structure Filled (source : Source) (url directory : String) (outer : List String) (disk : Disk)
    (labels : List String) (visits : List Visit) (after : Disk) : Prop where
  visited : visits.map (·.label) = labels
  failed : (Summary.ofVisits visits).failed =
    labels.filter fun l => (served? source url directory disk l).isNone
  paths : ∀ v ∈ visits, ∀ path, v.result = .ok path → pagePath ⟨some directory⟩ v.label = .ok path
  alike : disk.Alike after
  pages : ∀ l ∈ labels, ∀ name page, served? source url directory disk l = some (name, page) →
    after.file? (outer ++ [name]) = some (Text.utf8 page)
  frame : ∀ names, (∀ l ∈ labels, ∀ name page,
    served? source url directory disk l = some (name, page) → names ≠ outer ++ [name]) →
      after.file? names = disk.file? names

theorem Filled.nil : Filled source url directory outer disk [] [] disk where
  visited := rfl
  failed := rfl
  paths := by simp
  alike := ⟨rfl, rfl⟩
  pages := by simp
  frame := fun _ _ => rfl

theorem Filled.skip (rest : Filled source url directory outer disk labels visits after)
    (unserved : served? source url directory disk label = none)
    (request : Option Request) (fault : Fault) :
    Filled source url directory outer disk (label :: labels)
      (⟨label, request, .error fault⟩ :: visits) after where
  visited := by rw [List.map_cons, rest.visited]
  failed := by simp [ofVisits_cons, Visit.isWritten, unserved, rest.failed]
  paths := by
    rintro v (_ | ⟨_, later⟩) path written
    · cases written
    · exact rest.paths v later path written
  alike := rest.alike
  pages := by
    rintro l (_ | ⟨_, later⟩) name page served
    · rw [unserved] at served
      cases served
    · exact rest.pages l later name page served
  frame := by
    intro names away
    exact rest.frame names fun l later => away l (List.mem_cons_of_mem label later)

theorem Filled.store (leads : disk.Leads directory outer)
    (found : served? source url directory disk label = some (name, page))
    (rest : Filled source url directory outer (disk.stored (outer ++ [name]) page)
      labels visits after) (request : Option Request) :
    Filled source url directory outer disk (label :: labels)
      (⟨label, request, .ok (Path.join directory name)⟩ :: visits) after := by
  have same : served? source url directory (disk.stored (outer ++ [name]) page) =
      served? source url directory disk := served?_congr leads (Disk.alike_stored ..)
  obtain ⟨named, answer, -⟩ := (served?_eq_some_iff leads).mp found
  obtain ⟨visited, failed, paths, alike, pages, frame⟩ := rest
  simp only [same] at failed pages frame
  constructor
  · rw [List.map_cons, visited]
  · simp [ofVisits_cons, Visit.isWritten, found, failed]
  · rintro v (_ | ⟨_, later⟩) path written
    · obtain rfl := Except.ok.inj written
      simp [pagePath, named]
    · exact paths v later path written
  · exact ⟨alike.directories, alike.refusals⟩
  · rintro l (_ | ⟨_, later⟩) other body served
    · obtain ⟨rfl, rfl⟩ := Prod.mk.inj (Option.some.inj (found.symm.trans served))
      -- A later label with the same file puts the same page there.
      by_cases again : ∃ l ∈ labels, ∃ body, served? source url directory disk l = some (name, body)
      · obtain ⟨l, later, body, served⟩ := again
        have asked := ((served?_eq_some_iff leads).mp served).2.1
        obtain rfl : page = body := Except.ok.inj (answer.symm.trans asked)
        exact pages l later name page served
      · rw [frame, Disk.file?_stored, if_pos rfl]
        intro l later other body served clash
        obtain rfl : name = other := by simpa using clash
        exact again ⟨l, later, body, served⟩
    · exact pages l later other body served
  · intro names away
    have own := away label List.mem_cons_self name page found
    rw [frame names fun l later => away l (List.mem_cons_of_mem label later), Disk.file?_stored,
      if_neg own]

/-- Every label is visited, whatever became of those before it. -/
theorem filled_fetchPages (leads : disk.Leads directory outer) (source : Source) (url : String)
    (labels : List String) :
    Filled source url directory outer disk labels (fetchPages source url directory labels disk).1
      (fetchPages source url directory labels disk).2 := by
  induction labels generalizing disk with
  | nil => exact .nil
  | cons label labels ih =>
    rw [fetchPages]
    rcases fetchPage_cases leads source url label with
      ⟨name, page, found, done⟩ | ⟨unserved, fault, done⟩
    · rw [done]
      exact .store leads found (ih ((Disk.alike_stored ..).leads leads)) _
    · rw [done]
      exact (ih leads).skip unserved _ _

theorem Filled.served (filled : Filled source url directory outer disk labels visits after)
    (listed : l ∈ labels) (fine : l ∉ (Summary.ofVisits visits).failed) :
    ∃ name page, served? source url directory disk l = some (name, page) := by
  rw [filled.failed, List.mem_filter] at fine
  obtain ⟨⟨name, page⟩, found⟩ := Option.ne_none_iff_exists'.mp (by simpa [listed] using fine)
  exact ⟨name, page, found⟩

/-- A label is looked up in the file that its page was written to. -/
theorem Filled.lookup (filled : Filled source url directory outer disk labels visits after)
    (leads : disk.Leads directory outer) (listed : l ∈ labels)
    (found : served? source url directory disk l = some (name, page)) :
    lookup ⟨some directory⟩ after l = .ok page := by
  have file := filled.pages l listed name page found
  obtain ⟨named, -, free⟩ := (served?_eq_some_iff leads).mp found
  rw [← filled.alike.obstacle?] at free
  have text := Disk.read_child (filled.alike.leads leads) (pageFile_of_pageName? named).plain
    free file
  have path : pagePath ⟨some directory⟩ l = .ok (Path.join directory name) := by
    simp [pagePath, named]
  rw [Manual.lookup, path]
  exact congrArg (Except.mapError Fault.io) text

end Pages

/-- In a directory that is there or can be made, fetching visits every label: those that name
no file, or whose page or file fails, are listed as failed, and each other one is looked up
as its page. No file changes but theirs, each of which is one step inside the directory. -/
theorem fetch_lookup (source : Source) (url directory : String) (labels : List String)
    (ready : Disk.makeDirectory disk directory = .ok made) :
    ∃ visits after outer, fetch source url directory labels disk = .ok (visits, after) ∧
      made.walk (Path.origin directory) (Path.steps directory) = .ok (.directory outer) ∧
      (Summary.ofVisits visits).written + (Summary.ofVisits visits).failed.length = labels.length ∧
      (Summary.ofVisits visits).failed =
        labels.filter (fun l => (served? source url directory made l).isNone) ∧
      (∀ l ∈ labels, l ∉ (Summary.ofVisits visits).failed → ∃ name page,
        pageName? l = some name ∧ source (baseUrl url ++ "/" ++ name) = .ok page ∧
        lookup ⟨some directory⟩ after l = .ok page ∧
        markdown ⟨some directory⟩ after l = .ok ("### " ++ l ++ "\n\n" ++ page)) ∧
      (∀ names, (∀ l ∈ labels, l ∉ (Summary.ofVisits visits).failed → ∀ name,
        pageName? l = some name → names ≠ outer ++ [name]) →
        after.file? names = disk.file? names) ∧
      after.directories = made.directories ∧
      (∀ v ∈ visits, ∀ path, v.result = .ok path →
        pagePath ⟨some directory⟩ v.label = .ok path) ∧
      (∀ l path, pagePath ⟨some directory⟩ l = .ok path → ∃ name,
        pageName? l = some name ∧ PageFile name ∧ path = Path.join directory name ∧
        Path.origin path = Path.origin directory ∧
        Path.steps path = Path.steps directory ++ [name]) := by
  obtain ⟨kept, outer, leads⟩ := Disk.makeDirectory_leads ready
  have filled := filled_fetchPages leads source url labels
  have fetched : fetch source url directory labels disk =
      .ok (fetchPages source url directory labels made) := by rw [fetch, ready]
  refine ⟨_, _, outer, fetched, leads, ?_, filled.failed, ?_, ?_, filled.alike.directories,
    filled.paths, fun l path => pagePath_inside⟩
  · rw [written_add_failed, ← List.length_map, filled.visited]
  · intro l listed fine
    obtain ⟨name, page, found⟩ := filled.served listed fine
    obtain ⟨named, answer, -⟩ := (served?_eq_some_iff leads).mp found
    have text := filled.lookup leads listed found
    refine ⟨name, page, named, answer, text, ?_⟩
    rw [markdown, text]
    rfl
  · intro names away
    have unchanged : made.file? names = disk.file? names := by rw [Disk.file?, Disk.file?, kept]
    rw [← unchanged]
    apply filled.frame
    intro l listed name page found
    apply away l listed
    · simp [filled.failed, found]
    · exact ((served?_eq_some_iff leads).mp found).1

/-- A source with three pages. -/
def threePages : Source := fun url =>
  if url = "http://h/get.md" then .ok "Reads a value."
  else if url = "http://h/set.md" then .ok "Stores a value."
  else if url = "http://h/ping.md" then .ok "Answers."
  else .error (.http "404 Not Found")

/-- A directory with an old page, a directory that has the name of a page, and a page that is
protected. -/
def shelf : Disk where
  files := [(["docs", "get.md"], [79, 108, 100]), (["docs", "note"], []),
    (["docs", "ping.md"], [79, 108, 100])]
  directories := [["docs"], ["docs", "set.md"]]
  refusals := [(["docs", "ping.md"], .ofKind .permissionDenied)]

def wanted : List String := ["GET", "../get", "SET", "PING", " get", "NOSUCH"]

/-- Two spellings of one label, a label that leads upwards, two whose files cannot be written
and one without a page. -/
theorem fetch_lookup_mixed : ∃ visits after,
    fetch threePages "http://h/" "docs" wanted shelf = .ok (visits, after) ∧
    Summary.ofVisits visits = ⟨2, ["../get", "SET", "PING", "NOSUCH"]⟩ ∧
    lookup ⟨some "docs"⟩ after " get" = .ok "Reads a value." ∧
    markdown ⟨some "docs"⟩ after " get" = .ok "###  get\n\nReads a value." ∧
    after.file? ["docs", "note"] = some [] ∧
    after.file? ["docs", "ping.md"] = some [79, 108, 100] := by
  have there : (shelf.makeDirectory "docs").toOption.map
      (fun d => (d.files, d.directories, d.refusals)) =
        some (shelf.files, shelf.directories, shelf.refusals) := by decide +kernel
  obtain ⟨made, ready, same⟩ := Option.map_eq_some_iff.mp there
  obtain ⟨visits, after, outer, fetched, leads, total, failed, pages, frame, -⟩ :=
    fetch_lookup threePages "http://h/" "docs" wanted (toOption_eq_some_iff.mp ready)
  obtain rfl : made = shelf := by
    cases made
    simpa [shelf] using same
  have refused : wanted.filter (fun l => (served? threePages "http://h/" "docs" shelf l).isNone) =
      ["../get", "SET", "PING", "NOSUCH"] := by decide +kernel
  rw [refused] at failed
  obtain ⟨name, page, own, answer, text, shown⟩ :=
    pages " get" (by decide) (by rw [failed]; decide)
  obtain rfl : "get.md" = name := by
    have named : pageName? " get" = some "get.md" := by decide
    exact Option.some.inj (named.symm.trans own)
  obtain rfl : "Reads a value." = page := Except.ok.inj answer
  -- Both labels that do not fail have the same file.
  have away : ∀ l ∈ wanted, l ∉ (Summary.ofVisits visits).failed → ∀ name,
      pageName? l = some name → name = "get.md" := by
    rw [failed]
    decide
  refine ⟨visits, after, fetched, ?_, text, shown, frame _ ?_, frame _ ?_⟩
  · rw [failed] at total
    have written : (Summary.ofVisits visits).written = 2 := Nat.add_right_cancel total
    rw [← written, ← failed]
  all_goals
    intro l listed fine name own clash
    obtain rfl := away l listed fine name own
    exact absurd (congrArg List.getLast? clash) (by simp)

end KeyScript.Manual
