import SchemaDdl.Proofs.DistinctKeys
import SchemaDdl.Proofs.PathText
import SchemaDdl.Settings.Search

namespace SchemaDdl

namespace FileTree

variable {t : FileTree} {path : String}

theorem exists?_eq_error_iff {f : AccessFault} :
    t.exists? path = .error f ↔
      f = .system ⟨.nameTooLong, path⟩ ∧ t.locate path = .error (.system ⟨.nameTooLong, path⟩) := by
  unfold exists? test stat
  cases hloc : t.locate path with
  | ok loc => cases hentry : t.find? loc <;> simp [hentry, bind, Except.bind, refuse]
  | error g =>
    obtain rfl | ⟨e, rfl, rfl | rfl | rfl⟩ := locate_error hloc <;> simp [bind, Except.bind, eq_comm]

theorem locate_of_long_first {p : Path} {c : String} {cs : List String} (h : p.Sound) (hparts : p.parts = c :: cs)
    (hdir : t.find? (t.start p) = some .directory) (hup : c ≠ "..") (hlong : maxName < c.utf8ByteSize) :
    t.locate p.text = .error (.system ⟨.nameTooLong, p.text⟩) := by
  have hdot : c ≠ "." := (h c (by simp [hparts])).ne_dot
  rw [locate_text h]
  split
  · rfl
  · rw [ways, if_neg (by simp [hparts]), hparts, walk, hdir]
    dsimp only
    rw [if_neg hdot, if_neg hup, if_pos hlong, mapError_error]

theorem readFile_of_missing (h : t.exists? path = .ok false) : ∃ f, t.readFile path = .error f := by
  unfold exists? test at h
  cases hstat : t.stat path with
  | ok e => simp [hstat] at h
  | error f => exact ⟨f, by rw [readFile, hstat]; rfl⟩

theorem exists?_of_readFile {bytes : List UInt8} (h : t.readFile path = .ok bytes) : t.exists? path = .ok true := by
  unfold readFile at h
  unfold exists? test
  cases hstat : t.stat path with
  | ok e => rfl
  | error f =>
    rw [hstat] at h
    cases h

theorem readFile_bare (path : String) : ∃ f, readFile ⟨[], []⟩ path = .error f := by
  unfold readFile stat
  cases locate ⟨[], []⟩ path with
  | error f => exact ⟨f, rfl⟩
  | ok loc =>
    cases loc with
    | nil => exact ⟨_, rfl⟩
    | cons name names => exact ⟨_, rfl⟩

end FileTree

namespace Settings

/-- A table of a file in which settings are looked for. -/
structure Candidate where
  file : Path
  table : List String

def candidatesIn (dir : Location) : List Candidate :=
  [⟨FileTree.locationPath (dir ++ ["pyproject.toml"]), ["tool", "thrift-sql"]⟩,
   ⟨FileTree.locationPath (dir ++ [".thrift-sql.toml"]), ["thrift-sql"]⟩,
   ⟨FileTree.locationPath (dir ++ [".thrift-sql.toml"]), ["tool", "thrift-sql"]⟩]

/-- The candidates of a directory, then those of the directory above it, and so on up to the root. -/
def candidatesUp (dir : Location) : List Candidate :=
  candidatesIn dir ++ if dir = [] then [] else candidatesUp dir.dropLast
termination_by dir.length
decreasing_by
  rw [List.length_dropLast]
  have := List.length_pos_iff.2 ‹dir ≠ []›
  omega

/-- The document in a file, if there is one that can be read. -/
def document? (limit : Toml.Limit) (t : FileTree) (file : Path) : Option Table :=
  match t.readFile file.text with
  | .error _ => none
  | .ok bytes =>
    match Text.Utf8.decode bytes with
    | .error _ => none
    | .ok text =>
      match Toml.parse limit text with
      | .error _ => none
      | .ok root => some root

/-- The value of the table, if the file defines it. -/
def Candidate.value? (limit : Toml.Limit) (t : FileTree) (c : Candidate) : Option Value :=
  (document? limit t c.file).bind fun root ↦ (Value.table root).at? c.table

def knownKeys : List String := ["output_extension", "strict_types", "max_file_size", "max_line_length"]

def overridden (s : Settings) (entries : Table) : Settings where
  extension := (entries.get? "output_extension").getD s.extension
  strict := (entries.get? "strict_types").getD s.strict
  maxFileSize := (entries.get? "max_file_size").getD s.maxFileSize
  maxLineLength := (entries.get? "max_line_length").getD s.maxLineLength

/-- The settings that a value stands for, if it is a table that has known keys only. -/
def ofValue? : Value → Option Settings
  | .table entries => if ∀ e ∈ entries, e.1 ∈ knownKeys then some (overridden {} entries) else none
  | _ => none

/-- What the first candidate that is defined says: settings, or that its table is none of settings. -/
def decision (limit : Toml.Limit) (t : FileTree) : List Candidate → Except (Path × List String) Settings
  | [] => .ok {}
  | c :: cs =>
    match c.value? limit t with
    | none => decision limit t cs
    | some v =>
      match ofValue? v with
      | some s => .ok s
      | none => .error (c.file, c.table)

/-- The file and the table that a fault names. -/
def SearchFault.table? : SearchFault → Option (Path × List String)
  | .invalidTable table file _ => some (file, table)
  | _ => none

/-- No search passes the file: a name in its path is too long, or it holds an integer with too many digits or values
inside each other beyond the limit. -/
def Blocks (limit : Toml.Limit) (t : FileTree) (file : Path) : Prop :=
  t.locate file.text = .error (.system ⟨.nameTooLong, file.text⟩) ∨
    ∃ bytes text, t.readFile file.text = .ok bytes ∧ Text.Utf8.decode bytes = .ok text ∧
      ((∃ digits, Toml.parse limit text = .error (.integerTooLong digits)) ∨ Toml.parse limit text = .error .tooDeep)

/-- Up to the candidate that decides, all files can be passed. -/
def Passable (limit : Toml.Limit) (t : FileTree) : List Candidate → Prop
  | [] => True
  | c :: cs => ¬Blocks limit t c.file ∧ (c.value? limit t = none → Passable limit t cs)

variable {s s' : Settings} {entries : Table} {key : String} {v : Value}

theorem set?_eq_none_iff : s.set? key v = none ↔ key ∉ knownKeys := by
  unfold set?
  split <;> simp_all [knownKeys]

theorem overridden_cons (h : s.set? key v = some s') (hkey : key ∉ entries.map Prod.fst) :
    overridden s ((key, v) :: entries) = overridden s' entries := by
  have hnone : entries.get? key = none := by
    cases hget : entries.get? key with
    | none => rfl
    | some w => exact absurd (List.mem_map.2 ⟨_, Table.mem_of_get? hget, rfl⟩) hkey
  unfold set? at h
  split at h
  next => cases h; simp [overridden, Table.get?, hnone]
  next => cases h; simp [overridden, Table.get?, hnone]
  next => cases h; simp [overridden, Table.get?, hnone]
  next => cases h; simp [overridden, Table.get?, hnone]
  next => cases h

theorem setAll_eq_ok (hkeys : (entries.map Prod.fst).Nodup) (h : ∀ e ∈ entries, e.1 ∈ knownKeys) :
    s.setAll entries = .ok (overridden s entries) := by
  induction entries generalizing s with
  | nil => rfl
  | cons e rest ih =>
    obtain ⟨key, v⟩ := e
    obtain ⟨hknown, hrest⟩ := List.forall_mem_cons.1 h
    obtain ⟨hkey, hnodup⟩ := List.nodup_cons.1 hkeys
    cases hset : s.set? key v with
    | none => exact absurd hknown (set?_eq_none_iff.1 hset)
    | some s' =>
      rw [setAll, hset, overridden_cons hset hkey]
      exact ih hnodup hrest

theorem setAll_eq_error (h : ¬∀ e ∈ entries, e.1 ∈ knownKeys) : ∃ f, s.setAll entries = .error f := by
  induction entries generalizing s with
  | nil => exact absurd (by simp) h
  | cons e rest ih =>
    obtain ⟨key, v⟩ := e
    cases hset : s.set? key v with
    | none => exact ⟨_, by rw [setAll, hset]⟩
    | some s' =>
      rw [setAll, hset]
      refine ih ?_
      intro hrest
      refine h (List.forall_mem_cons.2 ⟨?_, hrest⟩)
      by_cases hkey : key ∈ knownKeys
      · exact hkey
      · rw [set?_eq_none_iff.2 hkey] at hset
        cases hset

theorem ofTable_eq (hv : v.Distinct) (file : Path) (table : List String) :
    (ofTable v file table).mapError SearchFault.table? =
      match ofValue? v with
      | some s => .ok s
      | none => .error (some (file, table)) := by
  cases v with
  | table entries =>
    obtain ⟨hkeys, -⟩ := Value.distinct_table_iff.1 hv
    by_cases h : ∀ e ∈ entries, e.1 ∈ knownKeys
    · simp only [ofTable, ofEntries, setAll_eq_ok hkeys h, ofValue?, if_pos h, mapError_ok]
    · obtain ⟨f, hf⟩ := setAll_eq_error (s := {}) h
      simp only [ofTable, ofEntries, hf, ofValue?, if_neg h, mapError_error, SearchFault.table?]
  | _ => rfl

variable {limit : Toml.Limit} {t t' : FileTree} {file : Path} {tables : List (List String)} {c : Candidate}
  {cs ds : List Candidate}

theorem document?_distinct {root : Table} (h : document? limit t file = some root) : (Value.table root).Distinct := by
  unfold document? at h
  split at h
  · cases h
  split at h
  · cases h
  split at h
  · cases h
  next hparse =>
    cases h
    exact Toml.distinct_parse hparse

theorem Candidate.distinct_value? (h : c.value? limit t = some v) : v.Distinct := by
  obtain ⟨root, hroot, hv⟩ := Option.bind_eq_some_iff.1 h
  exact Value.distinct_at? (document?_distinct hroot) hv

theorem firstTable_eq {root : Table} (h : document? limit t file = some root) (tables : List (List String)) :
    (∀ table ∈ tables, Candidate.value? limit t ⟨file, table⟩ = none) ∧ firstTable (.table root) file tables = .ok none ∨
      ∃ before table after v, tables = before ++ table :: after ∧
        (∀ b ∈ before, Candidate.value? limit t ⟨file, b⟩ = none) ∧ Candidate.value? limit t ⟨file, table⟩ = some v ∧
        firstTable (.table root) file tables = (ofTable v file table).map some := by
  induction tables with
  | nil => exact .inl ⟨by simp, rfl⟩
  | cons table tables ih =>
    have hvalue (table : List String) : Candidate.value? limit t ⟨file, table⟩ = (Value.table root).at? table := by
      rw [Candidate.value?, h, Option.bind_some]
    rw [firstTable]
    cases hat : (Value.table root).at? table with
    | some v => exact .inr ⟨[], table, tables, v, rfl, by simp, by rw [hvalue, hat], rfl⟩
    | none =>
      have hhead : Candidate.value? limit t ⟨file, table⟩ = none := by rw [hvalue, hat]
      obtain ⟨hnone, hfirst⟩ | ⟨before, found, after, v, rfl, hbefore, hv, hfirst⟩ := ih
      · exact .inl ⟨List.forall_mem_cons.2 ⟨hhead, hnone⟩, hfirst⟩
      · exact .inr ⟨table :: before, found, after, v, rfl, List.forall_mem_cons.2 ⟨hhead, hbefore⟩, hv, hfirst⟩

/-- The bytes of a file that can be read are a text. -/
def HoldsText (t : FileTree) (file : Path) : Prop :=
  ∀ bytes, t.readFile file.text = .ok bytes → ∃ text, Text.Utf8.decode bytes = .ok text

theorem inFile_eq (hpass : ¬Blocks limit t file) (htext : HoldsText t file) (tables : List (List String)) :
    inFile limit t file tables =
      match document? limit t file with
      | none => .ok none
      | some root => firstTable (.table root) file tables := by
  unfold inFile document?
  cases hexists : t.exists? file.text with
  | error f =>
    obtain ⟨-, hlong⟩ := FileTree.exists?_eq_error_iff.1 hexists
    exact absurd (.inl hlong) hpass
  | ok there =>
    cases there with
    | false =>
      obtain ⟨f, hf⟩ := FileTree.readFile_of_missing hexists
      simp only [hf]
    | true =>
      cases hread : t.readFile file.text with
      | error f => rfl
      | ok bytes =>
        obtain ⟨text, hdecode⟩ := htext bytes hread
        cases hparse : Toml.parse limit text with
        | ok root => simp only [hdecode, hparse]
        | error f =>
          cases f with
          | invalid => simp only [hdecode, hparse]
          | integerTooLong digits => exact absurd (.inr ⟨bytes, text, hread, hdecode, .inl ⟨digits, hparse⟩⟩) hpass
          | tooDeep => exact absurd (.inr ⟨bytes, text, hread, hdecode, .inr hparse⟩) hpass

theorem inFile_of_blocks (hblocks : Blocks limit t file) (tables : List (List String)) :
    ∃ f, inFile limit t file tables = .error f ∧ f.table? = none := by
  unfold inFile
  obtain hlong | ⟨bytes, text, hread, hdecode, ⟨digits, hparse⟩ | hparse⟩ := hblocks
  · rw [FileTree.exists?_eq_error_iff.2 ⟨rfl, hlong⟩]
    exact ⟨_, rfl, rfl⟩
  · rw [FileTree.exists?_of_readFile hread]
    exact ⟨.integerTooLong digits, by simp only [hread, hdecode, hparse], rfl⟩
  · rw [FileTree.exists?_of_readFile hread]
    exact ⟨.tooDeep, by simp only [hread, hdecode, hparse], rfl⟩

theorem inFile_of_undecodable {bytes : List UInt8} {f : Text.Utf8.Fault} (hread : t.readFile file.text = .ok bytes)
    (hdecode : Text.Utf8.decode bytes = .error f) (tables : List (List String)) :
    inFile limit t file tables = .error (.undecodable f) := by
  unfold inFile
  rw [FileTree.exists?_of_readFile hread]
  simp only [hread, hdecode]

theorem inFile_cases (hpass : ¬Blocks limit t file) (htext : HoldsText t file) (tables : List (List String)) :
    (∀ table ∈ tables, Candidate.value? limit t ⟨file, table⟩ = none) ∧ inFile limit t file tables = .ok none ∨
      ∃ before table after v, tables = before ++ table :: after ∧
        (∀ b ∈ before, Candidate.value? limit t ⟨file, b⟩ = none) ∧ Candidate.value? limit t ⟨file, table⟩ = some v ∧
        inFile limit t file tables = (ofTable v file table).map some := by
  rw [inFile_eq hpass htext]
  cases hdocument : document? limit t file with
  | none =>
    refine .inl ⟨?_, rfl⟩
    intro table _
    rw [Candidate.value?, hdocument, Option.bind_none]
  | some root => exact firstTable_eq hdocument tables

def candidatesOf (files : List (Path × List (List String))) : List Candidate :=
  files.flatMap fun f ↦ f.2.map (Candidate.mk f.1)

variable {files : List (Path × List (List String))}

theorem candidatesOf_cons :
    candidatesOf ((file, tables) :: files) = tables.map (Candidate.mk file) ++ candidatesOf files :=
  List.flatMap_cons

theorem decision_append (h : ∀ c ∈ cs, c.value? limit t = none) : decision limit t (cs ++ ds) = decision limit t ds := by
  induction cs with
  | nil => rfl
  | cons c cs ih =>
    obtain ⟨hc, hcs⟩ := List.forall_mem_cons.1 h
    rw [List.cons_append, decision, hc]
    exact ih hcs

theorem passable_append (h : ∀ c ∈ cs, c.value? limit t = none) :
    Passable limit t (cs ++ ds) ↔ (∀ c ∈ cs, ¬Blocks limit t c.file) ∧ Passable limit t ds := by
  induction cs with
  | nil => simp
  | cons c cs ih =>
    obtain ⟨hc, hcs⟩ := List.forall_mem_cons.1 h
    rw [List.cons_append, Passable, ih hcs, List.forall_mem_cons]
    constructor
    · rintro ⟨hpass, hrest⟩
      exact ⟨⟨hpass, (hrest hc).1⟩, (hrest hc).2⟩
    · rintro ⟨⟨hpass, hall⟩, hrest⟩
      exact ⟨hpass, fun _ ↦ ⟨hall, hrest⟩⟩

theorem forall_not_blocks (h : ¬Blocks limit t file) (tables : List (List String)) :
    ∀ c ∈ tables.map (Candidate.mk file), ¬Blocks limit t c.file := by
  intro c hc
  obtain ⟨table, -, rfl⟩ := List.mem_map.1 hc
  exact h

theorem passable_of_forall (h : ∀ c ∈ cs, ¬Blocks limit t c.file) : Passable limit t cs := by
  induction cs with
  | nil => trivial
  | cons c cs ih =>
    obtain ⟨hc, hcs⟩ := List.forall_mem_cons.1 h
    exact ⟨hc, fun _ ↦ ih hcs⟩

theorem decision_cons_of_some (h : c.value? limit t = some v) :
    (decision limit t (c :: cs)).mapError some =
      match ofValue? v with
      | some s => .ok s
      | none => .error (some (c.file, c.table)) := by
  rw [decision, h]
  dsimp only
  cases ofValue? v <;> rfl

/-- A file that can be passed: the search goes on behind it as the order does, or both end with its table. -/
theorem firstFile_cons (hpass : ¬Blocks limit t file) (htext : HoldsText t file) :
    (∀ c ∈ tables.map (Candidate.mk file), c.value? limit t = none) ∧
        firstFile limit t ((file, tables) :: files) = firstFile limit t files ∨
      (firstFile limit t ((file, tables) :: files)).mapError SearchFault.table? =
          (decision limit t (candidatesOf ((file, tables) :: files))).mapError some ∧
        Passable limit t (candidatesOf ((file, tables) :: files)) := by
  rw [firstFile, candidatesOf_cons]
  obtain ⟨hnone, hin⟩ | ⟨before, table, after, v, rfl, hbefore, hv, hin⟩ := inFile_cases hpass htext tables
  · refine .inl ⟨?_, by rw [hin]⟩
    intro c hc
    obtain ⟨table, htable, rfl⟩ := List.mem_map.1 hc
    exact hnone table htable
  · right
    have hskip : ∀ c ∈ before.map (Candidate.mk file), c.value? limit t = none := by
      intro c hc
      obtain ⟨b, hb, rfl⟩ := List.mem_map.1 hc
      exact hbefore b hb
    rw [List.map_append, List.append_assoc, List.map_cons, List.cons_append, decision_append hskip,
      passable_append hskip, decision_cons_of_some hv, hin]
    refine ⟨?_, forall_not_blocks hpass before, hpass, ?_⟩
    · rw [← ofTable_eq (Candidate.distinct_value? hv) file table]
      cases ofTable v file table <;> rfl
    · intro hnone
      rw [hnone] at hv
      cases hv

/-- The search goes by the order, or it comes to a file that it cannot pass and names no table. -/
theorem firstFile_cases (hne : ∀ f ∈ files, f.2 ≠ []) (htext : ∀ c ∈ candidatesOf files, HoldsText t c.file) :
    Passable limit t (candidatesOf files) ∧
        (firstFile limit t files).mapError SearchFault.table? = (decision limit t (candidatesOf files)).mapError some ∨
      ¬Passable limit t (candidatesOf files) ∧ (firstFile limit t files).mapError SearchFault.table? = .error none := by
  induction files with
  | nil => exact .inl ⟨trivial, rfl⟩
  | cons f files ih =>
    obtain ⟨file, tables⟩ := f
    obtain ⟨htables, hnes⟩ := List.forall_mem_cons.1 hne
    obtain ⟨table, tables, rfl⟩ := List.exists_cons_of_ne_nil htables
    rw [candidatesOf_cons] at htext
    obtain ⟨hhere, hrest⟩ := List.forall_mem_append.1 htext
    by_cases hblocks : Blocks limit t file
    · obtain ⟨f, hf, hunnamed⟩ := inFile_of_blocks hblocks (table :: tables)
      refine .inr ⟨fun hpass ↦ hpass.1 hblocks, ?_⟩
      rw [firstFile, hf, mapError_error, hunnamed]
    · obtain ⟨hnone, hfirst⟩ | ⟨hfirst, hpass⟩ := firstFile_cons hblocks (hhere ⟨file, table⟩ (by simp))
      · rw [hfirst, candidatesOf_cons, decision_append hnone, passable_append hnone,
          and_iff_right (forall_not_blocks hblocks _)]
        exact ih hnes hrest
      · exact .inl ⟨hpass, hfirst⟩

def SameFile (t t' : FileTree) (file : Path) : Prop :=
  t'.exists? file.text = t.exists? file.text ∧ t'.readFile file.text = t.readFile file.text

theorem inFile_congr (h : SameFile t t' file) (tables : List (List String)) :
    inFile limit t' file tables = inFile limit t file tables := by
  unfold inFile
  rw [h.1, h.2]

theorem holdsText_of_inFile {found : Option Settings} (h : inFile limit t file tables = .ok found) :
    HoldsText t file := by
  intro bytes hread
  cases hdecode : Text.Utf8.decode bytes with
  | ok text => exact ⟨text, rfl⟩
  | error f =>
    rw [inFile_of_undecodable hread hdecode] at h
    cases h

theorem not_blocks_of_inFile {found : Option Settings} (h : inFile limit t file tables = .ok found) :
    ¬Blocks limit t file := by
  intro hblocks
  obtain ⟨f, hf, -⟩ := inFile_of_blocks hblocks tables
  rw [h] at hf
  cases hf

theorem value?_of_inFile (h : inFile limit t file tables = .ok none) :
    ∀ table ∈ tables, Candidate.value? limit t ⟨file, table⟩ = none := by
  obtain ⟨hnone, -⟩ | ⟨before, table, after, v, -, -, -, hin⟩ :=
    inFile_cases (not_blocks_of_inFile h) (holdsText_of_inFile h) tables
  · exact hnone
  · rw [h] at hin
    cases hsettings : ofTable v file table <;> simp [hsettings, Except.map] at hin

theorem firstFile_congr (hne : ∀ f ∈ files, f.2 ≠ []) {before after : List Candidate}
    (hfiles : candidatesOf files = before ++ c :: after) (hv : c.value? limit t = some v)
    (hsame : ∀ d ∈ before ++ [c], SameFile t t' d.file) : firstFile limit t' files = firstFile limit t files := by
  induction files generalizing before with
  | nil => simp [candidatesOf] at hfiles
  | cons f files ih =>
    obtain ⟨file, tables⟩ := f
    obtain ⟨htables, hnes⟩ := List.forall_mem_cons.1 hne
    obtain ⟨table, tables, rfl⟩ := List.exists_cons_of_ne_nil htables
    rw [candidatesOf_cons] at hfiles
    have hfile : SameFile t t' file := by
      cases before with
      | nil =>
        have hhead : Candidate.mk file table = c := (List.cons.inj hfiles).1
        subst hhead
        exact hsame ⟨file, table⟩ (by simp)
      | cons b before =>
        have hhead : Candidate.mk file table = b := (List.cons.inj hfiles).1
        subst hhead
        exact hsame ⟨file, table⟩ (by simp)
    rw [firstFile, firstFile, inFile_congr hfile]
    cases hin : inFile limit t file (table :: tables) with
    | error f => rfl
    | ok found =>
      cases found with
      | some s => rfl
      | none =>
        obtain ⟨more, rfl, hrest⟩ | ⟨more, hgroup, hrest⟩ := List.append_eq_append_iff.1 hfiles
        · refine ih hnes hrest ?_
          intro d hd
          exact hsame d (by rw [List.append_assoc]; exact List.mem_append_right _ hd)
        · cases more with
          | nil =>
            have hrest' : candidatesOf files = [] ++ c :: after := hrest.symm
            exact ih hnes hrest' fun d hd ↦ hsame d (List.mem_append_right _ hd)
          | cons d more =>
            -- the table would be one of this file's
            cases (List.cons.inj hrest).1
            have hmem : c ∈ (table :: tables).map (Candidate.mk file) := by simp [hgroup]
            obtain ⟨b, hb, rfl⟩ := List.mem_map.1 hmem
            rw [value?_of_inFile hin b hb] at hv
            cases hv

theorem upward_eq (loc : Location) : upward loc = loc :: if loc = [] then [] else upward loc.dropLast := by
  rw [upward, List.range_succ_eq_map, List.map_cons, Nat.sub_zero, List.take_length, List.map_map]
  congr 1
  split
  next hroot => simp [hroot]
  next hroot =>
    have hlen : loc.length = loc.dropLast.length + 1 := by
      have hpos := List.length_pos_iff.2 hroot
      rw [List.length_dropLast]
      omega
    rw [upward, ← hlen]
    apply List.map_congr_left
    intro i hi
    rw [Function.comp_apply, List.dropLast_eq_take, List.take_take, List.length_take]
    congr 1
    omega

theorem flatMap_candidatesIn (loc : Location) : (upward loc).flatMap candidatesIn = candidatesUp loc := by
  fun_induction candidatesUp loc with
  | case1 loc ih =>
    rw [upward_eq, List.flatMap_cons]
    by_cases hroot : loc = []
    · simp [hroot]
    · simp only [if_neg hroot, ih hroot]

theorem candidatesOf_searched (loc : Location) : candidatesOf (searched loc) = candidatesUp loc := by
  rw [← flatMap_candidatesIn]
  exact List.flatMap_assoc

theorem tables_ne_nil (loc : Location) : ∀ f ∈ searched loc, f.2 ≠ [] := by
  intro f hf
  obtain ⟨dir, -, hdir⟩ := List.mem_flatMap.1 hf
  obtain ⟨⟨name, tables⟩, hmem, rfl⟩ := List.mem_map.1 hdir
  have hnames : (name, tables) = ("pyproject.toml", [["tool", "thrift-sql"]]) ∨
      (name, tables) = (".thrift-sql.toml", [["thrift-sql"], ["tool", "thrift-sql"]]) := by
    simpa [candidates] using hmem
  rcases hnames with h | h
  · cases h
    simp
  · cases h
    simp

theorem length_candidatesUp (loc : Location) : (candidatesUp loc).length = 3 * (loc.length + 1) := by
  fun_induction candidatesUp loc with
  | case1 loc ih =>
    rw [List.length_append]
    by_cases hroot : loc = []
    · simp [hroot, candidatesIn]
    · have hpos := List.length_pos_iff.2 hroot
      rw [if_neg hroot, ih hroot, List.length_dropLast]
      simp only [candidatesIn, List.length_cons, List.length_nil]
      omega

theorem load_of_null {path : Path} (h : ¬∀ p ∈ path.parts, '\x00' ∉ p.toList) :
    load limit t path = .error (.access .nullCharacter) := by
  rw [load, if_pos (by simpa using h)]

theorem load_of_no_null {path : Path} (h : ∀ p ∈ path.parts, '\x00' ∉ p.toList) :
    load limit t path = firstFile limit t (searched (t.resolve path)) := by
  rw [load, if_neg (by simpa using h)]

theorem mapError_some_ne (d : Except (Path × List String) Settings) : d.mapError some ≠ .error none := by
  cases d <;> simp

/-- The nearest table decides. A search gives what the order of the candidates says exactly if all files up to the one
that decides can be passed; files behind it make no difference; and the order ends at the root. -/
theorem load_eq_decision (limit : Toml.Limit) (t : FileTree) (path : Path)
    (htext : ∀ c ∈ candidatesUp (t.resolve path), HoldsText t c.file) :
    ((load limit t path).mapError SearchFault.table? = (decision limit t (candidatesUp (t.resolve path))).mapError some ↔
      (∀ p ∈ path.parts, '\x00' ∉ p.toList) ∧ Passable limit t (candidatesUp (t.resolve path))) ∧
    (∀ t' before c after v, candidatesUp (t.resolve path) = before ++ c :: after → c.value? limit t = some v →
      t'.current = t.current → (∀ d ∈ before ++ [c], SameFile t t' d.file) → load limit t' path = load limit t path) ∧
    (candidatesUp (t.resolve path)).length = 3 * ((t.resolve path).length + 1) := by
  have horder := candidatesOf_searched (t.resolve path)
  have hne := tables_ne_nil (t.resolve path)
  rw [← horder] at htext
  refine ⟨?_, ?_, length_candidatesUp _⟩
  · rw [← horder]
    by_cases hnull : ∀ p ∈ path.parts, '\x00' ∉ p.toList
    · rw [load_of_no_null hnull, and_iff_right hnull]
      obtain ⟨hpass, heq⟩ | ⟨hpass, heq⟩ := firstFile_cases hne htext
      · exact iff_of_true heq hpass
      · rw [heq]
        exact iff_of_false (mapError_some_ne _).symm hpass
    · rw [load_of_null hnull]
      exact iff_of_false (mapError_some_ne _).symm fun h ↦ hnull h.1
  · intro t' before c after v hsplit hv hcurrent hsame
    have hresolve : t'.resolve path = t.resolve path := by simp only [FileTree.resolve, hcurrent]
    rw [← horder] at hsplit
    rw [load, load, hresolve, firstFile_congr hne hsplit hv hsame]

/-- The settings stand above the directory, under the last of the candidates. The nearer files are no document, a file
that is locked and a directory. -/
def settingsAbove : FileTree where
  entries :=
    [(["a"], .directory),
     (["a", "pyproject.toml"], .file (Text.Utf8.encode "x".toList)),
     (["a", ".thrift-sql.toml"], .locked 3),
     (["pyproject.toml"], .directory),
     ([".thrift-sql.toml"], .file (Text.Utf8.encode "tool.thrift-sql.max_line_length = 7".toList))]
  current := ["a"]

theorem candidatesUp_one (name : String) : candidatesUp [name] = candidatesIn [name] ++ candidatesIn [] := by
  rw [candidatesUp, if_neg (List.cons_ne_nil name []), List.dropLast_singleton, candidatesUp, if_pos rfl,
    List.append_nil]

theorem load_eq_decision_above :
    (∀ c ∈ candidatesUp (settingsAbove.resolve (Path.ofString "x/..")), HoldsText settingsAbove c.file) ∧
    (load (.ofRoom 980) settingsAbove (Path.ofString "x/..")).mapError SearchFault.table? =
      (decision (.ofRoom 980) settingsAbove (candidatesUp (settingsAbove.resolve (Path.ofString "x/..")))).mapError some ∧
    ((decision (.ofRoom 980) settingsAbove
        (candidatesUp (settingsAbove.resolve (Path.ofString "x/..")))).toOption.bind fun s ↦
      (checkLimit .lineLength s.maxLineLength).toOption) = some ⟨7, by decide⟩ := by
  have hresolve : settingsAbove.resolve (Path.ofString "x/..") = ["a"] := by decide
  have hread : ∀ c ∈ candidatesIn ["a"] ++ candidatesIn [],
      ∃ found, inFile (.ofRoom 980) settingsAbove c.file [] = .ok found := by
    have hall : ∀ c ∈ candidatesIn ["a"] ++ candidatesIn [],
        (inFile (.ofRoom 980) settingsAbove c.file []).toOption.isSome := by
      decide +kernel
    intro c hc
    have hsome := hall c hc
    cases hin : inFile (.ofRoom 980) settingsAbove c.file [] with
    | ok found => exact ⟨found, rfl⟩
    | error f => simp [hin, Except.toOption] at hsome
  have htext : ∀ c ∈ candidatesUp ["a"], HoldsText settingsAbove c.file := by
    rw [candidatesUp_one]
    intro c hc
    obtain ⟨found, hin⟩ := hread c hc
    exact holdsText_of_inFile hin
  have hpass : Passable (.ofRoom 980) settingsAbove (candidatesUp ["a"]) := by
    rw [candidatesUp_one]
    apply passable_of_forall
    intro c hc
    obtain ⟨found, hin⟩ := hread c hc
    exact not_blocks_of_inFile hin
  have hload := load_eq_decision (.ofRoom 980) settingsAbove (Path.ofString "x/..")
  rw [hresolve] at hload ⊢
  refine ⟨htext, (hload htext).1.2 ⟨by decide, hpass⟩, ?_⟩
  rw [candidatesUp_one]
  decide +kernel

def nestedLists : FileTree := ⟨[(["pyproject.toml"], .file (Text.Utf8.encode "x = [[[1]]]".toList))], []⟩

example : (load (.ofRoom 4) nestedLists (Path.ofString ".")).toOption.isNone ∧
    (load (.ofRoom 6) nestedLists (Path.ofString ".")).toOption.isSome := by
  decide +kernel

theorem decision_bare (limit : Toml.Limit) (cs : List Candidate) : decision limit ⟨[], []⟩ cs = .ok {} := by
  have hnone : ∀ c ∈ cs, c.value? limit ⟨[], []⟩ = none := by
    intro c _
    obtain ⟨f, hf⟩ := FileTree.readFile_bare c.file.text
    rw [Candidate.value?, document?, hf]
    rfl
  have hend : decision limit ⟨[], []⟩ (cs ++ []) = decision limit ⟨[], []⟩ [] := decision_append hnone
  rw [List.append_nil] at hend
  exact hend

theorem load_bare {name : String} (h : IsComponent name) (hup : name ≠ "..")
    (hlong : FileTree.maxName < name.utf8ByteSize) :
    load limit ⟨[], []⟩ ⟨.relative, [name]⟩ =
      .error (.access (.system ⟨.nameTooLong, (FileTree.locationPath [name, "pyproject.toml"]).text⟩)) := by
  have hnull : ∀ p ∈ (Path.mk .relative [name]).parts, '\x00' ∉ p.toList := by
    intro p hp
    cases List.mem_singleton.1 hp
    exact h.null_not_mem
  have hresolve : FileTree.resolve ⟨[], []⟩ ⟨.relative, [name]⟩ = [name] := if_neg hup
  have hsound : (FileTree.locationPath [name, "pyproject.toml"]).Sound := by
    have hfile : IsComponent "pyproject.toml" := ⟨by decide, by decide, by decide, by decide⟩
    exact List.forall_mem_cons.2 ⟨h, List.forall_mem_singleton.2 hfile⟩
  have hexists : FileTree.exists? ⟨[], []⟩ (FileTree.locationPath [name, "pyproject.toml"]).text =
      .error (.system ⟨.nameTooLong, (FileTree.locationPath [name, "pyproject.toml"]).text⟩) :=
    FileTree.exists?_eq_error_iff.2 ⟨rfl, FileTree.locate_of_long_first hsound rfl rfl hup hlong⟩
  have hsearched : searched [name] =
      (FileTree.locationPath [name, "pyproject.toml"], [["tool", "thrift-sql"]]) :: (searched [name]).tail := rfl
  rw [load_of_no_null hnull, hresolve, hsearched, firstFile, inFile, hexists]

def longName : String := String.ofList (List.replicate 256 'a')

/-- A search that does not go by the order: there are no files, so no candidate decides, but a name is too long. -/
theorem load_of_long_name :
    (∀ limit, decision limit ⟨[], []⟩ (candidatesUp (FileTree.resolve ⟨[], []⟩ ⟨.relative, [longName]⟩)) = .ok {}) ∧
      ∀ limit, load limit ⟨[], []⟩ ⟨.relative, [longName]⟩ = .error (.access (.system ⟨.nameTooLong,
        (FileTree.locationPath [longName, "pyproject.toml"]).text⟩)) := by
  have hchars : longName.toList = List.replicate 256 'a' := String.toList_ofList
  have hne (s : String) (hs : s.length < 256) : longName ≠ s := by
    rintro rfl
    rw [← String.length_toList, hchars, List.length_replicate] at hs
    omega
  have hcomponent : IsComponent longName := by
    refine ⟨hne "" (by decide), hne "." (by decide), ?_, ?_⟩
    · rw [hchars, List.mem_replicate]
      decide
    · rw [hchars, List.mem_replicate]
      decide
  exact ⟨fun limit ↦ decision_bare limit _, fun limit ↦ load_bare hcomponent (hne ".." (by decide)) (by decide +kernel)⟩

end Settings

end SchemaDdl
