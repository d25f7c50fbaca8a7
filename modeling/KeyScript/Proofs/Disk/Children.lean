import KeyScript.Disk
import KeyScript.Proofs.Text.Decoding
import KeyScript.Proofs.Text.Lines

/-! Files inside one directory of a disk. A plain name joined to the path of a directory
leads one step further than the directory does. Whether a file can be written there depends on
the directories and on the files that are refused, so writing a file changes no other file and
no other write. -/
namespace KeyScript.Path

/-- A name that is one step of a path, into the directory it stands in. -/
structure Plain (name : String) : Prop where
  ne_nil : name.toList ≠ []
  slashless : '/' ∉ name.toList
  ne_here : name ≠ here
  ne_above : name ≠ above

theorem isAbsolute_iff (path : String) : isAbsolute path = true ↔ path.toList.head? = some '/' := by
  rw [isAbsolute, String.startsWith_string_iff]
  cases path.toList <;> simp [eq_comm]

theorem endsWith_slash_iff (path : String) :
    path.endsWith "/" = true ↔ path.toList.getLast? = some '/' := by
  rw [String.endsWith_eq_endsWith_toSlice, String.Slice.endsWith_string_iff, String.copy_toSlice,
    List.getLast?_eq_some_iff]
  exact exists_congr fun front => eq_comm

theorem Plain.isAbsolute (plain : Plain name) : Path.isAbsolute name = false := by
  rw [← Bool.not_eq_true, isAbsolute_iff]
  intro first
  exact plain.slashless (List.mem_of_head? first)

/-- The path of a plain name is the name alone, or it stands behind a slash. -/
theorem join_cases (plain : Plain name) (directory : String) :
    (directory = "" ∧ join directory name = name) ∨
    (∃ front, (directory.toList = front ∨ directory.toList = front ++ ['/']) ∧
      directory.toList ≠ [] ∧ (join directory name).toList = front ++ '/' :: name.toList) := by
  rw [join, plain.isAbsolute, Bool.false_or]
  by_cases empty : directory = ""
  · exact Or.inl ⟨empty, by rw [empty]; rfl⟩
  have nonempty : directory.toList ≠ [] := by simpa using empty
  rw [if_neg (by simpa using empty)]
  refine Or.inr ?_
  split
  · rename_i ended
    obtain ⟨front, whole⟩ := List.getLast?_eq_some_iff.mp ((endsWith_slash_iff directory).mp ended)
    refine ⟨front, Or.inr whole, nonempty, ?_⟩
    rw [String.toList_append, whole, List.append_assoc, List.singleton_append]
  · exact ⟨directory.toList, Or.inl rfl, nonempty, by simp⟩

theorem steps_plain (plain : Plain name) : steps name = [name] := by
  simp [steps, Text.pieces_of_not_mem plain.slashless, plain.ne_nil]

/-- A plain name inside a directory is one step after the steps of the directory. -/
theorem steps_join (plain : Plain name) (directory : String) :
    steps (join directory name) = steps directory ++ [name] := by
  rcases join_cases plain directory with ⟨rfl, alone⟩ | ⟨front, shape, -, joined⟩
  · rw [alone, steps_plain plain]
    rfl
  · have last : Text.pieces '/' name.toList = [name.toList] := Text.pieces_of_not_mem plain.slashless
    rw [steps, joined, Text.pieces_append, last]
    rcases shape with whole | whole
    · simp [steps, whole, plain.ne_nil]
    · simp [steps, whole, Text.pieces_append, Text.pieces, plain.ne_nil]

theorem origin_join (plain : Plain name) (directory : String) :
    origin (join directory name) = origin directory := by
  have same : isAbsolute (join directory name) = isAbsolute directory := by
    rw [Bool.eq_iff_iff]
    rcases join_cases plain directory with ⟨rfl, alone⟩ | ⟨front, shape, nonempty, joined⟩
    · rw [alone, plain.isAbsolute]
      decide
    · rw [isAbsolute_iff, isAbsolute_iff, joined]
      rcases shape with whole | whole
      · obtain ⟨c, cs, first⟩ := List.exists_cons_of_ne_nil nonempty
        rw [← whole, first]
        rfl
      · rw [whole]
        cases front <;> rfl
  rw [origin, origin, same]

theorem steps_eq_nil (nowhere : names path = []) : steps path = [] := by
  obtain ⟨start, kept⟩ := List.append_eq_nil_iff.mp nowhere
  have relative : ¬isAbsolute path = true := by
    intro absolute
    rw [origin, if_pos absolute] at start
    cases start
  cases whole : steps path with
  | nil => rfl
  | cons first rest => simp [whole, relative] at kept

theorem join_ne_empty (plain : Plain name) (directory : String) : join directory name ≠ "" := by
  intro empty
  have gone := steps_join plain directory
  rw [empty] at gone
  simp [steps, Text.pieces] at gone

theorem not_endsWith_join (plain : Plain name) (directory : String) :
    (join directory name).endsWith "/" = false := by
  rw [← Bool.not_eq_true, endsWith_slash_iff]
  have own : (join directory name).toList.getLast? = name.toList.getLast? := by
    rcases join_cases plain directory with ⟨-, alone⟩ | ⟨_, -, -, joined⟩
    · rw [alone]
    · rw [joined, List.append_cons, List.getLast?_append, List.getLast?_eq_some_getLast plain.ne_nil,
        Option.some_or]
  rw [own]
  intro last
  exact plain.slashless (List.mem_of_getLast? last)

end KeyScript.Path

namespace KeyScript.Disk

/-- The path leads to the directory with these names. -/
def Leads (disk : Disk) (path : String) (names : List String) : Prop :=
  disk.walk (Path.origin path) (Path.steps path) = .ok (.directory names)

/-- The disk with the text in the file of these names. -/
def stored (disk : Disk) (names : List String) (text : String) : Disk :=
  { disk with files := put names (Text.utf8 text) disk.files }

/-- What stands under these names, in a directory that is there. -/
def spot (disk : Disk) (names : List String) : Place :=
  if disk.isDirectory names then .directory names
  else if (disk.file? names).isSome then .file names
  else .vacant names

/-- Why the path of a name inside a directory leads nowhere. -/
def pathFault? (directory name : String) : Option IoFault :=
  if (Path.join directory name).toList.contains (Char.ofNat 0) then some zeroInName
  else if pathLimit < (Path.join directory name).utf8ByteSize then some nameTooLong
  else if nameLimit < name.utf8ByteSize then some nameTooLong
  else none

/-- Why no file can be written there: a fault of the path, a directory with the name, or the
file itself. -/
def obstacle? (disk : Disk) (directory : String) (outer : List String) (name : String) :
    Option IoFault :=
  (pathFault? directory name).or
    (if disk.isDirectory (outer ++ [name]) then some isDirectoryFault
     else disk.refusal? (outer ++ [name]))

/-- The later disk differs in the content of its files only. -/
structure Alike (disk later : Disk) : Prop where
  directories : later.directories = disk.directories
  refusals : later.refusals = disk.refusals

section Walking

/-- From a directory that was reached, the walk goes on as it would from there. -/
theorem walk_append (reached : walk disk start steps = .ok (.directory there))
    (more : List String) : walk disk start (steps ++ more) = walk disk there more := by
  fun_induction walk disk start steps with
  | case1 start => rw [Place.directory.inj (Except.ok.inj reached), List.nil_append]
  | case2 start rest ih => rw [List.cons_append, walk, if_pos rfl, ih reached]
  | case3 start rest away ih => rw [List.cons_append, walk, if_neg away, if_pos rfl, ih reached]
  | case5 start name rest here above short next inside ih =>
    rw [List.cons_append, walk, if_neg here, if_neg above, if_neg short]
    rw [if_pos inside, ih reached]
  | case4 | case6 | case7 | case8 | case9 => cases reached

/-- More directories lead to the same directory, or to one where nothing was. -/
theorem walk_mono {disk made : Disk}
    (more : ∀ names, disk.isDirectory names = true → made.isDirectory names = true)
    (reached : walk disk start steps = .ok found)
    (there : found = .directory names ∨ found = .vacant names ∧ made.isDirectory names = true) :
    walk made start steps = .ok (.directory names) := by
  fun_induction walk disk start steps with
  | case1 start =>
    obtain rfl := Except.ok.inj reached
    rcases there with same | ⟨same, _⟩ <;> cases same
    rfl
  | case2 start rest ih => rw [walk, if_pos rfl, ih reached]
  | case3 start rest away ih => rw [walk, if_neg away, if_pos rfl, ih reached]
  | case5 start name rest here above short next inside ih =>
    rw [walk, if_neg here, if_neg above, if_neg short]
    rw [if_pos (more _ inside), ih reached]
  | case8 start name rest here above short next outside missing last =>
    obtain rfl := Except.ok.inj reached
    rcases there with same | ⟨same, inside⟩
    · cases same
    · obtain rfl : start ++ [name] = names := Place.vacant.inj same
      rw [List.isEmpty_iff.mp last, walk, if_neg here, if_neg above, if_neg short]
      rw [if_pos inside, walk]
  | case6 start name rest here above short next outside present last =>
    obtain rfl := Except.ok.inj reached
    rcases there with same | ⟨same, _⟩ <;> cases same
  | case4 | case7 | case9 => cases reached

theorem walk_of_locate (located : locate disk path = .ok found) :
    walk disk (Path.origin path) (Path.steps path) = .ok found := by
  rw [locate] at located
  split at located
  · cases located
  split at located
  · cases located
  split at located
  · cases located
  · exact located

theorem walk_child (plain : Path.Plain name) (disk : Disk) (outer : List String) :
    disk.walk outer [name] =
      if nameLimit < name.utf8ByteSize then .error nameTooLong
      else .ok (disk.spot (outer ++ [name])) := by
  rw [walk, if_neg plain.ne_here, if_neg plain.ne_above, spot]
  simp only [walk, List.isEmpty_nil, if_true]
  split
  · rfl
  split
  · rfl
  split <;> rfl

end Walking

section Files

theorem file?_put (names other : List String) (bytes : List UInt8)
    (files : List (List String × List UInt8)) (directories : List (List String))
    (refusals : List (List String × IoFault)) :
    file? ⟨put names bytes files, directories, refusals⟩ other =
      if other = names then some bytes else file? ⟨files, directories, refusals⟩ other := by
  induction files with
  | nil =>
    by_cases own : other = names
    · simp [file?, put, own]
    · simp [file?, put, own, Ne.symm own]
  | cons entry files ih =>
    obtain ⟨key, old⟩ := entry
    rw [put]
    by_cases same : key = names
    · subst same
      rw [if_pos (beq_self_eq_true key)]
      by_cases own : other = key
      · simp [file?, own]
      · simp [file?, own, Ne.symm own]
    · rw [if_neg (by simpa using same)]
      by_cases own : key = other
      · subst own
        simp [file?, same]
      · simpa [file?, own] using ih

theorem file?_stored (disk : Disk) (names other : List String) (text : String) :
    (disk.stored names text).file? other =
      if other = names then some (Text.utf8 text) else disk.file? other :=
  file?_put names other (Text.utf8 text) disk.files disk.directories disk.refusals

theorem alike_stored (disk : Disk) (names : List String) (text : String) :
    disk.Alike (disk.stored names text) := ⟨rfl, rfl⟩

theorem Alike.leads {disk later : Disk} (alike : disk.Alike later)
    (leads : disk.Leads path names) : later.Leads path names := by
  apply walk_mono _ leads (Or.inl rfl)
  intro names inside
  rw [isDirectory, alike.directories]
  exact inside

theorem Alike.obstacle? {disk later : Disk} (alike : disk.Alike later)
    (directory : String) (outer : List String) (name : String) :
    later.obstacle? directory outer name = disk.obstacle? directory outer name := by
  rw [Disk.obstacle?, Disk.obstacle?, isDirectory, isDirectory, refusal?, refusal?,
    alike.directories, alike.refusals]

end Files

section Child
variable {disk : Disk} {directory : String} {outer : List String}

theorem locate_child (leads : disk.Leads directory outer) (plain : Path.Plain name) :
    disk.locate (Path.join directory name) =
      match pathFault? directory name with
      | some fault => .error fault
      | none => .ok (disk.spot (outer ++ [name])) := by
  have nonempty : (Path.join directory name).isEmpty = false := by
    simpa using Path.join_ne_empty plain directory
  rw [locate, nonempty, if_neg Bool.false_ne_true, Path.origin_join plain, Path.steps_join plain,
    walk_append leads, walk_child plain, pathFault?]
  by_cases zero : (Path.join directory name).toList.contains (Char.ofNat 0) = true
  · rw [if_pos zero, if_pos zero]
  by_cases long : pathLimit < (Path.join directory name).utf8ByteSize
  · rw [if_neg zero, if_pos long, if_neg zero, if_pos long]
  by_cases wide : nameLimit < name.utf8ByteSize
  · rw [if_neg zero, if_neg long, if_pos wide, if_neg zero, if_neg long, if_pos wide]
  · rw [if_neg zero, if_neg long, if_neg wide, if_neg zero, if_neg long, if_neg wide]

/-- A write under a plain name succeeds unless there is an obstacle, and stores the text. -/
theorem write_child (leads : disk.Leads directory outer) (plain : Path.Plain name) (text : String) :
    disk.write (Path.join directory name) text =
      match disk.obstacle? directory outer name with
      | some fault => .error fault
      | none => .ok (disk.stored (outer ++ [name]) text) := by
  rw [write, update, locate_child leads plain, obstacle?]
  cases pathFault? directory name with
  | some fault => rfl
  | none =>
    rw [Option.none_or, spot]
    by_cases inside : disk.isDirectory (outer ++ [name]) = true
    · rw [if_pos inside, if_pos inside]
    rw [if_neg inside, if_neg inside]
    -- A slash at the end would be a fault of its own, but a plain name has none.
    have ending := Bool.eq_false_iff.mp (Path.not_endsWith_join plain directory)
    by_cases there : (disk.file? (outer ++ [name])).isSome = true
    · rw [if_pos there]
      exact if_neg ending
    · rw [if_neg there]
      exact if_neg ending

theorem read_child (leads : disk.Leads directory outer) (plain : Path.Plain name)
    (free : disk.obstacle? directory outer name = none)
    (file : disk.file? (outer ++ [name]) = some (Text.utf8 text)) :
    disk.read (Path.join directory name) = .ok text := by
  obtain ⟨path, free⟩ := Option.or_eq_none_iff.mp free
  have outside : ¬disk.isDirectory (outer ++ [name]) = true := by
    intro inside
    rw [if_pos inside] at free
    cases free
  rw [read, readBytes, locate_child leads plain, path, spot, if_neg outside, file]
  simp only [Path.not_endsWith_join plain directory, file, Option.getD_some, Text.ofUtf8?_utf8,
    Option.isSome_some, if_true, Bool.false_eq_true, if_false]

end Child

section Making

theorem makeOne_leads (done : makeOne disk path = .ok made) :
    made.files = disk.files ∧ ∃ names, made.Leads path names := by
  rw [makeOne] at done
  split at done
  · cases done
  · rename_i names vacant
    obtain rfl := Except.ok.inj done
    refine ⟨rfl, names, walk_mono ?_ (walk_of_locate vacant) (Or.inr ⟨rfl, ?_⟩)⟩
    · intro other inside
      simp only [isDirectory, Bool.or_eq_true, List.contains_iff_mem] at inside ⊢
      exact inside.imp_right (List.mem_cons_of_mem names)
    · simp [isDirectory]
  · cases done

theorem settle_leads (done : settle disk path fault = .ok made) :
    made.files = disk.files ∧ ∃ names, made.Leads path names := by
  rw [settle] at done
  split at done
  · rename_i names found
    obtain rfl := Except.ok.inj done
    exact ⟨rfl, names, walk_of_locate found⟩
  · cases done

theorem makeFrom_leads (done : makeFrom disk chain = .ok made) :
    made.files = disk.files ∧ ∀ path ∈ chain.head?, ∃ names, made.Leads path names := by
  induction chain generalizing disk made with
  | nil =>
    obtain rfl := Except.ok.inj done
    exact ⟨rfl, by simp⟩
  | cons path outer ih =>
    simp only [List.head?_cons, Option.mem_some_iff, forall_eq']
    rw [makeFrom] at done
    split at done
    · rename_i first
      obtain rfl := Except.ok.inj done
      exact makeOne_leads first
    split at done
    · split at done
      · cases done
      rename_i between behind
      have kept := (ih behind).1
      split at done
      · rename_i second
        obtain rfl := Except.ok.inj done
        exact ⟨(makeOne_leads second).1.trans kept, (makeOne_leads second).2⟩
      · exact ⟨(settle_leads done).1.trans kept, (settle_leads done).2⟩
    · exact settle_leads done

/-- A directory that was made is there, and no file has changed. -/
theorem makeDirectory_leads (done : makeDirectory disk path = .ok made) :
    made.files = disk.files ∧ ∃ names, made.Leads path names := by
  obtain ⟨kept, first⟩ := makeFrom_leads done
  refine ⟨kept, ?_⟩
  rw [Path.ancestors] at first
  split at first
  · rename_i nowhere
    exact ⟨Path.origin path, by rw [Leads, Path.steps_eq_nil nowhere, walk]⟩
  · exact first path rfl

end Making

end KeyScript.Disk
