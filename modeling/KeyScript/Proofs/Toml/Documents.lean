import KeyScript.Proofs.Toml.Values

/-! Documents of sections. A document that is written, one section for each table, is read
back line by line, and its lines build the tables that it was written from. -/
namespace KeyScript.Toml

/-- A key that stands without quotes. -/
structure BareKey (key : String) : Prop where
  some : key ≠ ""
  bare : ∀ c ∈ key.toList, isBareKey c = true

instance (key : String) : Decidable (BareKey key) :=
  decidable_of_iff (key ≠ "" ∧ key.toList.all isBareKey = true)
    ⟨fun both => ⟨both.1, List.all_eq_true.mp both.2⟩,
      fun key => ⟨key.some, List.all_eq_true.mpr key.bare⟩⟩

/-- Entries that can stand in a section, each key once. -/
structure Legible (entries : List (String × Value)) : Prop where
  keys : ∀ e ∈ entries, BareKey e.1
  values : ∀ e ∈ entries, Writable e.2
  distinct : (entries.map Prod.fst).Nodup

theorem BareKey.head (bare : BareKey key) :
    ∃ c more, key.toList = c :: more ∧ Solid c ∧ c ≠ '[' := by
  have nonempty : key.toList ≠ [] := mt String.toList_eq_nil_iff.mp bare.some
  obtain ⟨c, more, same⟩ := List.exists_cons_of_ne_nil nonempty
  have inside := bare.bare c (by simp [same])
  refine ⟨c, more, same, ?_, ?_⟩
  · constructor
    · rw [isSpace, Bool.or_eq_false_iff, beq_eq_false_iff_ne, beq_eq_false_iff_ne]
      constructor <;> rintro rfl <;> contradiction
    all_goals
      rintro rfl
      contradiction
  · rintro rfl
    contradiction

theorem path?_bare (bare : BareKey key) (stop : ∀ d ∈ rest.head?, isBareKey d = false)
    (next : skipSpace rest = c :: more) (point : c ≠ '.') :
    path? (fuel + 1) (key.toList ++ rest) = some ([key], c :: more) := by
  obtain ⟨first, tail, same, solid, _⟩ := bare.head
  have none : rest.takeWhile isBareKey = [] ∧ rest.dropWhile isBareKey = rest := by
    cases rest with
    | nil => exact ⟨rfl, rfl⟩
    | cons d rest => simp [stop d rfl]
  have simple : simpleKey? fuel (key.toList ++ rest) = some (key, rest) := by
    rw [simpleKey?, List.takeWhile_append_of_pos bare.bare,
      List.dropWhile_append_of_pos bare.bare, none.1, none.2, List.append_nil]
    split
    · rename_i empty
      rw [same] at empty
      contradiction
    · rw [String.ofList_toList]
  have spaceless : skipSpace (key.toList ++ rest) = key.toList ++ rest := by
    rw [same]
    exact skipSpace_solid solid.space _
  have read : key? (fuel + 1) (key.toList ++ rest) = some ([key], c :: more) := by
    rw [key?.eq_def]
    simp [spaceless, simple, next, point]
  rw [path?, read]
  rfl

theorem lineEnd?_feed (rest : List Char) : lineEnd? ('\n' :: rest) = some rest := rfl

/-- A line is read whole, by any fuel that its characters do not exceed. -/
def ReadsLine (cs : List Char) (line : Line) : Prop :=
  ∀ rest fuel, cs.length + rest.length ≤ fuel → line? fuel (cs ++ rest) = some (line, rest)

def entryLine (entry : String × Value) : List Char :=
  entry.1.toList ++ " = ".toList ++ valueText entry.2 ++ ['\n']

def headerLine (name : String) : List Char := '[' :: name.toList ++ [']', '\n']

theorem readsLine_entry (bare : BareKey key) (writable : Writable value) :
    ReadsLine (entryLine (key, value)) (.entry [key] value) := by
  intro rest fuel enough
  obtain ⟨c, more, same, solid, bracket⟩ := bare.head
  obtain ⟨d, tail, text, space⟩ := writable.head
  have length : " = ".toList.length = 3 := rfl
  simp only [entryLine, List.length_append, List.length_singleton] at enough
  obtain ⟨fuel, rfl⟩ := Nat.exists_eq_add_of_le' (show 1 ≤ fuel by omega)
  have path : path? (fuel + 1) (key.toList ++ (' ' :: '=' :: ' ' :: (valueText value ++
      '\n' :: rest))) = some ([key], '=' :: ' ' :: (valueText value ++ '\n' :: rest)) :=
    path?_bare bare (by rintro _ ⟨⟩; decide) rfl (by decide)
  have blank : skipSpace (' ' :: (valueText value ++ '\n' :: rest)) =
      valueText value ++ '\n' :: rest := by
    rw [text]
    exact skipSpace_solid space _
  have read : value? depthLimit (fuel + 1) (valueText value ++ '\n' :: rest) =
      some (value, '\n' :: rest) := value?_writable writable .lineEnd (by omega)
  have whole : entryLine (key, value) ++ rest =
      key.toList ++ (' ' :: '=' :: ' ' :: (valueText value ++ '\n' :: rest)) := by
    simp [entryLine]
  rw [whole, line?.eq_3]
  · simp [path, after?, blank, read, lineEnd?_feed]
  all_goals
    intro rest begins
    rw [same] at begins
    exact bracket (List.cons.inj begins).1

theorem readsLine_header (bare : BareKey name) : ReadsLine (headerLine name) (.header [name]) := by
  intro rest fuel enough
  obtain ⟨c, more, same, _, bracket⟩ := bare.head
  simp only [headerLine, List.length_append, List.length_cons] at enough
  obtain ⟨fuel, rfl⟩ := Nat.exists_eq_add_of_le' (show 1 ≤ fuel by omega)
  have path : path? (fuel + 1) (name.toList ++ ']' :: '\n' :: rest) =
      some ([name], ']' :: '\n' :: rest) := path?_bare bare (by rintro _ ⟨⟩; decide) rfl (by decide)
  have whole : headerLine name ++ rest = '[' :: (name.toList ++ ']' :: '\n' :: rest) := by
    simp [headerLine]
  rw [whole, line?.eq_2]
  · simp [path, after?, lineEnd?_feed]
  · intro rest begins
    rw [same] at begins
    exact bracket (List.cons.inj begins).1

/-- The lines are read whole, up to the end of the text. -/
def ReadsLines (cs : List Char) (lines : List Line) : Prop :=
  ∀ fuel, cs.length + 2 ≤ fuel → lines? fuel cs = some lines

theorem readsLines_nil : ReadsLines [] [] := by
  intro fuel enough
  obtain ⟨fuel, rfl⟩ := Nat.exists_eq_add_of_le' enough
  rfl

section
variable {cs rest : List Char} {line : Line} {lines : List Line}

/-- Reading goes on behind the first line, and a line end may stand in front of it. -/
theorem ReadsLine.followed (read : ReadsLine (c :: cs) line) (solid : Solid c)
    (later : ReadsLines rest lines) : ReadsLines (c :: cs ++ rest) (line :: lines) ∧
      ReadsLines ('\n' :: (c :: cs ++ rest)) (line :: lines) := by
  have step : ∀ fuel skipped, (c :: cs ++ rest).length < fuel →
      skipLines? fuel skipped = some (c :: cs ++ rest) →
      lines? (fuel + 1) skipped = some (line :: lines) := by
    intro fuel skipped enough found
    rw [List.length_append, List.length_cons] at enough
    rw [lines?.eq_def]
    have first := read rest fuel (by rw [List.length_cons]; omega)
    rw [List.cons_append] at first found
    simp [found, first, later fuel (by omega)]
  constructor
  · intro fuel enough
    obtain ⟨fuel, rfl⟩ := Nat.exists_eq_add_of_le' (show 2 ≤ fuel by omega)
    exact step (fuel + 1) _ (by omega) (solid.skipLines? _)
  · intro fuel enough
    rw [List.length_cons] at enough
    obtain ⟨fuel, rfl⟩ := Nat.exists_eq_add_of_le' (show 3 ≤ fuel by omega)
    apply step (fuel + 2) _ (by omega)
    rw [skipLines?_feed]
    exact solid.skipLines? _

end

theorem entryTexts_eq (entries : List (String × Value)) : entryTexts entries =
    entries.map fun e => e.1.toList ++ " = ".toList ++ valueText e.2 := by
  induction entries with
  | nil => rfl
  | cons entry entries ih => rw [entryTexts, ih, List.map_cons]

theorem entryLines_eq (entries : List (String × Value)) :
    entryLines entries = entries.flatMap entryLine := by
  rw [entryLines, entryTexts_eq, List.flatMap_map]
  rfl

theorem readsLines_entries (keys : ∀ e ∈ entries, BareKey e.1)
    (values : ∀ e ∈ entries, Writable e.2) (later : ReadsLines rest lines) :
    ReadsLines (entryLines entries ++ rest)
      ((entries.map fun e => .entry [e.1] e.2) ++ lines) := by
  rw [entryLines_eq]
  induction entries with
  | nil => exact later
  | cons entry entries ih =>
    obtain ⟨bare, keys⟩ := List.forall_mem_cons.mp keys
    obtain ⟨writable, values⟩ := List.forall_mem_cons.mp values
    obtain ⟨c, more, same, solid, _⟩ := bare.head
    have line := readsLine_entry bare writable
    have begins : entryLine entry = c :: (more ++ " = ".toList ++ valueText entry.2 ++ ['\n']) := by
      rw [entryLine, same]
      rfl
    rw [begins] at line
    rw [List.flatMap_cons, begins, List.append_assoc]
    exact (line.followed solid (ih keys values)).1

/-- A section: the name of a table and its entries. -/
abbrev Section := String × List (String × Value)

def document (sections : List Section) : List (String × Value) :=
  sections.map fun s => (s.1, .table s.2)

def sectionText (s : Section) : List Char := headerLine s.1 ++ entryLines s.2

def sectionLines (s : Section) : List Line :=
  .header [s.1] :: s.2.map fun e => .entry [e.1] e.2

theorem readsLines_section {s : Section} (bare : BareKey s.1) (legible : Legible s.2)
    (later : ReadsLines rest lines) :
    ReadsLines (sectionText s ++ rest) (sectionLines s ++ lines) ∧
      ReadsLines ('\n' :: (sectionText s ++ rest)) (sectionLines s ++ lines) := by
  have entries := readsLines_entries legible.keys legible.values later
  have solid : Solid '[' := by constructor <;> decide
  have read := (readsLine_header bare).followed solid entries
  rw [sectionText, List.append_assoc]
  exact read

/-- Behind a first section each one has a line end in front of it. -/
theorem readsLines_sections {sections : List Section} (bare : ∀ s ∈ sections, BareKey s.1)
    (legible : ∀ s ∈ sections, Legible s.2) :
    ReadsLines (sections.flatMap fun s => '\n' :: sectionText s) (sections.flatMap sectionLines) := by
  induction sections with
  | nil => exact readsLines_nil
  | cons s sections ih =>
    obtain ⟨first, bare⟩ := List.forall_mem_cons.mp bare
    obtain ⟨here, legible⟩ := List.forall_mem_cons.mp legible
    rw [List.flatMap_cons, List.flatMap_cons, List.cons_append]
    exact (readsLines_section first here (ih bare legible)).2

theorem joinWith_cons (separator part : List Char) (parts : List (List Char)) :
    joinWith separator (part :: parts) = part ++ parts.flatMap (separator ++ ·) := by
  induction parts generalizing part with
  | nil => simp [joinWith]
  | cons next parts ih =>
    rw [joinWith, ih, List.flatMap_cons, List.append_assoc, List.append_assoc]
    exact List.cons_ne_nil next parts

theorem toList_render (sections : List Section) :
    (render (document sections)).toList = joinWith ['\n'] (sections.map sectionText) := by
  have plain : (document sections).filter (fun e => !isTable e.2) = [] := by
    rw [List.filter_eq_nil_iff]
    intro e member
    obtain ⟨s, _, rfl⟩ := List.mem_map.mp member
    simp [isTable]
  have texts : (document sections).filterMap section? = sections.map sectionText := by
    have each : section? ∘ (fun s : Section => (s.1, Value.table s.2)) = some ∘ sectionText := by
      funext s
      simp [section?, sectionText, headerLine]
    rw [document, List.filterMap_map, each, List.filterMap_eq_map]
  simp [render, plain, texts, entryLines, entryTexts]

section
variable {entries : Entries} {key : String}

theorem find?_eq_none (fresh : key ∉ entries.map Prod.fst) : find? key entries = none := by
  rw [find?, Option.map_eq_none_iff, List.find?_eq_none]
  intro e member
  rw [beq_iff_eq]
  rintro rfl
  exact fresh (List.mem_map_of_mem member)

theorem find?_last (fresh : key ∉ entries.map Prod.fst) (node : Node) :
    find? key (entries ++ [(key, node)]) = some node := by
  have before : entries.find? (·.1 == key) = none := by
    simpa [find?] using find?_eq_none fresh
  simp [find?, List.find?_append, before]

theorem put_fresh (fresh : key ∉ entries.map Prod.fst) (node : Node) :
    put key node entries = entries ++ [(key, node)] := by
  induction entries with
  | nil => rfl
  | cons e entries ih =>
    rw [List.map_cons, List.mem_cons, not_or] at fresh
    have other : (e.1 == key) = false := by simpa using Ne.symm fresh.1
    rw [put, if_neg (by simp [other]), ih fresh.2, List.cons_append]

theorem put_last (fresh : key ∉ entries.map Prod.fst) (old node : Node) :
    put key node (entries ++ [(key, old)]) = entries ++ [(key, node)] := by
  induction entries with
  | nil => simp [put]
  | cons e entries ih =>
    rw [List.map_cons, List.mem_cons, not_or] at fresh
    have other : (e.1 == key) = false := by simpa using Ne.symm fresh.1
    rw [List.cons_append, put, if_neg (by simp [other]), ih fresh.2, List.cons_append]

end

section
variable {root inner : Entries} {name key : String}

theorem add?_header (fresh : name ∉ root.map Prod.fst) (header : List String) :
    Building.add? ⟨root, header⟩ (.header [name]) =
      some ⟨root ++ [(name, .table .header [])], [name]⟩ := by
  simp [Building.add?, openTable, alter, find?_eq_none fresh, put_fresh fresh]

theorem insert_key (fresh : key ∉ inner.map Prod.fst) (value : Value) :
    insert .header [key] value inner = some (inner ++ [(key, .closed value)]) := by
  simp [insert, alter, find?_eq_none fresh, put_fresh fresh]

theorem add?_entry (table : name ∉ root.map Prod.fst) (fresh : key ∉ inner.map Prod.fst)
    (value : Value) :
    Building.add? ⟨root ++ [(name, .table .header inner)], [name]⟩ (.entry [key] value) =
      some ⟨root ++ [(name, .table .header (inner ++ [(key, .closed value)]))], [name]⟩ := by
  simp [Building.add?, insertUnder, alter, find?_last table, insert_key fresh, put_last table]

end

/-- The entries of a table, complete. -/
def closedEntries (entries : List (String × Value)) : Entries :=
  entries.map fun e => (e.1, .closed e.2)

def sectionNode (s : Section) : String × Node := (s.1, .table .header (closedEntries s.2))

/-- Entries with new keys are added to the table of the last header one by one. -/
theorem foldlM_entries {root : Entries} {name : String} (table : name ∉ root.map Prod.fst)
    (entries : List (String × Value)) (inner : Entries)
    (distinct : (inner.map Prod.fst ++ entries.map Prod.fst).Nodup) :
    (entries.map fun e => Line.entry [e.1] e.2).foldlM Building.add?
        ⟨root ++ [(name, .table .header inner)], [name]⟩ =
      some ⟨root ++ [(name, .table .header (inner ++ closedEntries entries))], [name]⟩ := by
  induction entries generalizing inner with
  | nil => simp [closedEntries]
  | cons e entries ih =>
    have fresh : e.1 ∉ inner.map Prod.fst := by
      intro member
      exact (List.nodup_append.mp distinct).2.2 e.1 member e.1 List.mem_cons_self rfl
    have later := ih (inner ++ [(e.1, .closed e.2)]) (by simpa using distinct)
    rw [List.map_cons, List.foldlM_cons, add?_entry table fresh]
    simpa [closedEntries] using later

theorem foldlM_section {root : Entries} {s : Section} (table : s.1 ∉ root.map Prod.fst)
    (distinct : (s.2.map Prod.fst).Nodup) (header : List String) :
    (sectionLines s).foldlM Building.add? ⟨root, header⟩ =
      some ⟨root ++ [sectionNode s], [s.1]⟩ := by
  rw [sectionLines, List.foldlM_cons, add?_header table]
  exact foldlM_entries table s.2 [] distinct

theorem foldlM_sections (sections : List Section) (root : Entries) (header : List String)
    (names : (root.map Prod.fst ++ sections.map Prod.fst).Nodup)
    (distinct : ∀ s ∈ sections, (s.2.map Prod.fst).Nodup) :
    ∃ last, (sections.flatMap sectionLines).foldlM Building.add? ⟨root, header⟩ =
      some ⟨root ++ sections.map sectionNode, last⟩ := by
  induction sections generalizing root header with
  | nil => exact ⟨header, by simp⟩
  | cons s sections ih =>
    have fresh : s.1 ∉ root.map Prod.fst := by
      intro member
      exact (List.nodup_append.mp names).2.2 s.1 member s.1 List.mem_cons_self rfl
    obtain ⟨here, distinct⟩ := List.forall_mem_cons.mp distinct
    obtain ⟨last, later⟩ := ih (root ++ [sectionNode s]) [s.1]
      (by simpa [sectionNode] using names) distinct
    refine ⟨last, ?_⟩
    rw [List.flatMap_cons, List.foldlM_append, foldlM_section fresh here]
    simpa using later

theorem entryValues_closedEntries (entries : List (String × Value)) :
    entryValues (closedEntries entries) = entries := by
  induction entries with
  | nil => rfl
  | cons e entries ih =>
    rw [closedEntries] at ih ⊢
    rw [List.map_cons, entryValues, ih, Node.value]

theorem entryValues_sections (sections : List Section) :
    entryValues (sections.map sectionNode) = document sections := by
  induction sections with
  | nil => rfl
  | cons s sections ih =>
    rw [List.map_cons, sectionNode, entryValues, ih, Node.value, entryValues_closedEntries]
    rfl

theorem build?_sections {sections : List Section} (names : (sections.map Prod.fst).Nodup)
    (distinct : ∀ s ∈ sections, (s.2.map Prod.fst).Nodup) :
    build? (sections.flatMap sectionLines) = some (document sections) := by
  obtain ⟨last, built⟩ := foldlM_sections sections [] [] names distinct
  rw [build?, built, List.nil_append, Option.map_some, entryValues_sections]

theorem parse?_sections {sections : List Section} (bare : ∀ s ∈ sections, BareKey s.1)
    (names : (sections.map Prod.fst).Nodup) (legible : ∀ s ∈ sections, Legible s.2) :
    parse? (render (document sections)) = some (document sections) := by
  have chars := toList_render sections
  generalize (render (document sections)) = text at chars
  have read : ReadsLines text.toList (sections.flatMap sectionLines) ∧
      skipByteOrderMark text.toList = text.toList := by
    rw [chars]
    cases sections with
    | nil => exact ⟨readsLines_nil, rfl⟩
    | cons s sections =>
      obtain ⟨first, bare⟩ := List.forall_mem_cons.mp bare
      obtain ⟨here, legible⟩ := List.forall_mem_cons.mp legible
      have later := readsLines_sections bare legible
      rw [List.map_cons, joinWith_cons, List.flatMap_map, List.flatMap_cons]
      exact ⟨(readsLines_section first here later).1, rfl⟩
  have lines := read.1 (2 * text.toList.length + 4) (by omega)
  have built := build?_sections names fun s member => (legible s member).distinct
  simp only [parse?, read.2, lines, Option.bind_eq_bind, Option.bind_some, built]

/-- A document of which every entry is a table of legible entries. -/
structure Sectioned (entries : List (String × Value)) : Prop where
  names : ∀ e ∈ entries, BareKey e.1
  tables : ∀ e ∈ entries, ∃ inner, e.2 = .table inner ∧ Legible inner
  distinct : (entries.map Prod.fst).Nodup

theorem Sectioned.sections (sectioned : Sectioned entries) : ∃ sections, entries = document sections ∧
    (∀ s ∈ sections, BareKey s.1) ∧ (sections.map Prod.fst).Nodup ∧
    ∀ s ∈ sections, Legible s.2 := by
  obtain ⟨names, tables, distinct⟩ := sectioned
  induction entries with
  | nil => exact ⟨[], rfl, by simp⟩
  | cons e entries ih =>
    obtain ⟨name, table⟩ := e
    obtain ⟨bare, others⟩ := List.forall_mem_cons.mp names
    obtain ⟨⟨inner, rfl, legible⟩, later⟩ := List.forall_mem_cons.mp tables
    obtain ⟨fresh, nodup⟩ := List.nodup_cons.mp distinct
    obtain ⟨sections, rfl, bares, nodup, legibles⟩ := ih others later nodup
    refine ⟨(name, inner) :: sections, rfl, List.forall_mem_cons.mpr ⟨bare, bares⟩, ?_,
      List.forall_mem_cons.mpr ⟨legible, legibles⟩⟩
    refine List.nodup_cons.mpr ⟨?_, nodup⟩
    simpa [document] using fresh

/-- A document of sections that is written is read back. -/
theorem parse?_render (sectioned : Sectioned entries) : parse? (render entries) = some entries := by
  obtain ⟨sections, rfl, bare, names, legible⟩ := sectioned.sections
  exact parse?_sections bare names legible

end KeyScript.Toml
