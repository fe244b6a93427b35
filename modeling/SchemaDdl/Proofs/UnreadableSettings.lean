import SchemaDdl.Proofs.NearestSettings

namespace SchemaDdl

namespace FileTree

variable {t t' : FileTree} {k loc r : Location} {c : String} {cs : List String}

def IsLocation (loc : Location) : Prop := ∀ c ∈ loc, IsComponent c ∧ c ≠ ".."

theorem isLocation_foldl (hloc : IsLocation loc) (hcs : ∀ c ∈ cs, IsComponent c) :
    IsLocation (cs.foldl (fun loc c ↦ if c = ".." then loc.dropLast else loc ++ [c]) loc) := by
  induction cs generalizing loc with
  | nil => exact hloc
  | cons c cs ih =>
    obtain ⟨hc, hrest⟩ := List.forall_mem_cons.1 hcs
    refine ih ?_ hrest
    dsimp only
    split
    · exact fun d hd ↦ hloc d (List.dropLast_subset loc hd)
    next hup => exact List.forall_mem_append.2 ⟨hloc, List.forall_mem_singleton.2 ⟨hc, hup⟩⟩

theorem isLocation_resolve {p : Path} (hcurrent : IsLocation t.current) (hp : p.Sound) : IsLocation (t.resolve p) := by
  refine isLocation_foldl ?_ hp
  split
  · exact hcurrent
  · simp [IsLocation]

/-- All directories down to a location are there. -/
def Open (t : FileTree) (loc : Location) : Prop := ∀ j, j <+: loc → t.find? j = some .directory

theorem walk_eq_ok_iff (hnames : ∀ n ∈ cs ++ [c], n ≠ "." ∧ n ≠ "..") : t.walk k (cs ++ [c]) = .ok r ↔
    r = k ++ (cs ++ [c]) ∧ (∀ j, j <+: cs → t.find? (k ++ j) = some .directory) ∧
      ∀ n ∈ cs ++ [c], n.utf8ByteSize ≤ maxName := by
  induction cs generalizing k with
  | nil =>
    obtain ⟨hdot, hup⟩ := hnames c (by simp)
    rw [List.nil_append, walk]
    cases hk : t.find? k with
    | none => simp [hk]
    | some e =>
      cases e with
      | file bytes | locked size => simp [hk]
      | directory =>
        dsimp only
        rw [if_neg hdot, if_neg hup]
        split
        next hlong => simp [Nat.not_le.2 hlong]
        next hshort => simp [walk, hk, Nat.not_lt.1 hshort, eq_comm]
  | cons n cs ih =>
    obtain ⟨⟨hdot, hup⟩, hrest⟩ := List.forall_mem_cons.1 hnames
    rw [List.cons_append, walk, List.forall_mem_cons]
    have hdirs : (∀ j, j <+: n :: cs → t.find? (k ++ j) = some .directory) ↔
        t.find? k = some .directory ∧ ∀ j, j <+: cs → t.find? (k ++ [n] ++ j) = some .directory := by
      constructor
      · intro h
        exact ⟨by simpa using h [] (by simp), fun j hj ↦ by simpa using h (n :: j) (by simpa using hj)⟩
      · rintro ⟨hk, hbelow⟩ j hj
        obtain rfl | ⟨i, rfl, hi⟩ := List.prefix_cons_iff.1 hj
        · simpa using hk
        · simpa using hbelow i hi
    rw [hdirs]
    cases hk : t.find? k with
    | none => simp
    | some e =>
      cases e with
      | file bytes | locked size => simp
      | directory =>
        dsimp only
        rw [if_neg hdot, if_neg hup]
        split
        next hlong => simp [Nat.not_le.2 hlong]
        next hshort =>
          rw [ih hrest]
          simp [Nat.not_lt.1 hshort]

theorem readFile_eq_ok_iff {path : String} {bytes : List UInt8} :
    t.readFile path = .ok bytes ↔ ∃ loc, t.locate path = .ok loc ∧ t.find? loc = some (.file bytes) := by
  unfold readFile stat
  cases t.locate path with
  | error f => simp [bind, Except.bind]
  | ok loc =>
    cases hentry : t.find? loc with
    | none => simp [bind, Except.bind, hentry, refuse]
    | some e => cases e <;> simp [bind, Except.bind, hentry, refuse]

theorem locate_text_eq_tooLong_iff {p : Path} (h : p.Sound) :
    t.locate p.text = .error (.system ⟨.nameTooLong, p.text⟩) ↔
      maxPath < p.text.utf8ByteSize ∨ t.walk (t.start p) (ways p) = .error .nameTooLong := by
  rw [locate_text h]
  split
  next hlong => simp [hlong]
  next hshort => cases t.walk (t.start p) (ways p) <;> simp [hshort]

end FileTree

namespace Settings

variable {limit : Toml.Limit} {t t' : FileTree} {dir d k loc : Location} {file : Path} {tables : List (List String)}
  {name : String}
  {bytes : List UInt8} {root : Table} {e : Entry}

def documentOf? (limit : Toml.Limit) (bytes : List UInt8) : Option Table :=
  (Text.Utf8.decode bytes).toOption.bind fun text ↦ (Toml.parse limit text).toOption

theorem document?_eq_some_iff :
    document? limit t file = some root ↔
      ∃ bytes, t.readFile file.text = .ok bytes ∧ documentOf? limit bytes = some root := by
  unfold document? documentOf?
  cases t.readFile file.text with
  | error f => simp
  | ok bytes =>
    simp only [Except.ok.injEq, exists_eq_left']
    cases Text.Utf8.decode bytes with
    | error f => simp [Except.toOption]
    | ok text => cases hparse : Toml.parse limit text <;> simp [Except.toOption, hparse]

/-- What stands in the place of a settings file cannot be read as one: it is a directory or a locked file, or its bytes
are no document. The directories on the way to `dir` are not meant. -/
def unreadable (limit : Toml.Limit) (t : FileTree) (dir loc : Location) : Bool :=
  (loc.getLast?.any fun name ↦ decide (name ∈ candidates.map Prod.fst)) &&
    match t.find? loc with
    | none => false
    | some .directory => !loc.isPrefixOf dir
    | some (.locked _) => true
    | some (.file bytes) => (documentOf? limit bytes).isNone

/-- The tree without the settings files that cannot be read and what is below them. -/
def pruned (limit : Toml.Limit) (t : FileTree) (dir : Location) : FileTree :=
  { t with entries := t.entries.filter fun e ↦ !(upward e.1).any (unreadable limit t dir) }

theorem mem_upward : k ∈ upward loc ↔ k <+: loc := by
  unfold upward
  rw [List.mem_map]
  constructor
  · rintro ⟨i, -, rfl⟩
    exact List.take_prefix _ loc
  · intro h
    refine ⟨loc.length - k.length, List.mem_range.2 (by omega), ?_⟩
    rw [Nat.sub_sub_self h.length_le]
    exact (List.prefix_iff_eq_take.1 h).symm

theorem find?_pruned (limit : Toml.Limit) (t : FileTree) (dir k : Location) :
    FileTree.find? (pruned limit t dir) k = if (upward k).any (unreadable limit t dir) then none else t.find? k := by
  unfold FileTree.find? pruned
  by_cases hk : k = []
  · subst hk
    rfl
  · rw [if_neg hk, if_neg hk, FileTree.lookup_filter fun l ↦ !(upward l).any (unreadable limit t dir)]
    cases (upward k).any (unreadable limit t dir) <;> rfl

theorem find?_of_pruned (h : FileTree.find? (pruned limit t dir) k = some e) : t.find? k = some e := by
  rw [find?_pruned] at h
  split at h
  · cases h
  · exact h

theorem find?_pruned_of_unreadable (h : unreadable limit t dir k) : FileTree.find? (pruned limit t dir) k = none := by
  rw [find?_pruned, if_pos]
  exact List.any_eq_true.2 ⟨k, mem_upward.2 (List.prefix_refl k), h⟩

theorem find?_pruned_of_readable (h : ∀ j, j <+: k → unreadable limit t dir j = false) :
    FileTree.find? (pruned limit t dir) k = t.find? k := by
  rw [find?_pruned, if_neg]
  intro hany
  obtain ⟨j, hj, hunreadable⟩ := List.any_eq_true.1 hany
  rw [h j (mem_upward.1 hj)] at hunreadable
  cases hunreadable

theorem unreadable_of_open (hk : t.Open k) (hdir : k <+: dir) : unreadable limit t dir k = false := by
  unfold unreadable
  rw [hk k (List.prefix_refl k)]
  simp [hdir]

/-- Some files are gone, but no directory on the way to `dir` and no document beside that way. -/
structure Thins (limit : Toml.Limit) (t t' : FileTree) (dir : Location) : Prop where
  current_eq : t'.current = t.current
  entry_of : ∀ k e, t'.find? k = some e → t.find? k = some e
  keeps_directory : ∀ k, k <+: dir → t.Open k → t'.find? k = some .directory
  keeps_document : ∀ k name bytes, k <+: dir → t.Open k → t.find? (k ++ [name]) = some (.file bytes) →
    (documentOf? limit bytes).isSome → t'.find? (k ++ [name]) = some (.file bytes)

theorem thins_pruned (limit : Toml.Limit) (t : FileTree) (dir : Location) : Thins limit t (pruned limit t dir) dir := by
  -- the directories on the way stay, and so do those above them
  have hway (k) (hk : k <+: dir) (hopen : t.Open k) (j) (hj : j <+: k) : unreadable limit t dir j = false :=
    unreadable_of_open (fun i hi ↦ hopen i (hi.trans hj)) (hj.trans hk)
  refine ⟨rfl, fun k e ↦ find?_of_pruned, ?_, ?_⟩
  · intro k hk hopen
    rw [find?_pruned_of_readable (hway k hk hopen)]
    exact hopen k (List.prefix_refl k)
  · intro k name bytes hk hopen hentry hdocument
    rw [find?_pruned_of_readable, hentry]
    intro j hj
    obtain rfl | hj := List.prefix_concat_iff.1 hj
    · unfold unreadable
      rw [hentry]
      simp [hdocument]
    · exact hway k hk hopen j hj

theorem Thins.directory_of (h : Thins limit t t' dir) (k : Location) (hk : t'.find? k = some .directory) :
    t.find? k = some .directory := h.entry_of k _ hk

theorem Thins.readFile_of (h : Thins limit t t' dir) {path : String} (hread : t'.readFile path = .ok bytes) :
    t.readFile path = .ok bytes := by
  obtain ⟨loc, hloc, hentry⟩ := FileTree.readFile_eq_ok_iff.1 hread
  exact FileTree.readFile_eq_ok_iff.2
    ⟨loc, FileTree.locate_mono h.directory_of h.current_eq.symm hloc, h.entry_of loc _ hentry⟩

theorem Thins.tooLong_of (h : Thins limit t t' dir) (hfile : file.Sound)
    (hlong : t'.locate file.text = .error (.system ⟨.nameTooLong, file.text⟩)) :
    t.locate file.text = .error (.system ⟨.nameTooLong, file.text⟩) := by
  have hstart : t'.start file = t.start file := by simp only [FileTree.start, h.current_eq]
  obtain hsize | hwalk := (FileTree.locate_text_eq_tooLong_iff hfile).1 hlong
  · exact (FileTree.locate_text_eq_tooLong_iff hfile).2 (.inl hsize)
  · rw [hstart] at hwalk
    refine (FileTree.locate_text_eq_tooLong_iff hfile).2 (.inr ?_)
    rw [FileTree.walk_eq_of_directories h.directory_of (by simp [hwalk]) (by simp [hwalk]), hwalk]

theorem sound_locationPath (hloc : FileTree.IsLocation loc) : (FileTree.locationPath loc).Sound :=
  fun c hc ↦ (hloc c hc).1

theorem Thins.readFile_document (h : Thins limit t t' dir) (hloc : FileTree.IsLocation (d ++ [name])) (hd : d <+: dir)
    (hread : t.readFile (FileTree.locationPath (d ++ [name])).text = .ok bytes)
    (hdocument : (documentOf? limit bytes).isSome) :
    t'.readFile (FileTree.locationPath (d ++ [name])).text = .ok bytes := by
  have hsound := sound_locationPath hloc
  have hnames (n) (hn : n ∈ d ++ [name]) : n ≠ "." ∧ n ≠ ".." := ⟨(hloc n hn).1.ne_dot, (hloc n hn).2⟩
  have hways : FileTree.ways (FileTree.locationPath (d ++ [name])) = d ++ [name] :=
    if_neg (by simp [FileTree.locationPath])
  obtain ⟨loc, hlocate, hentry⟩ := FileTree.readFile_eq_ok_iff.1 hread
  obtain ⟨hshort, hwalk⟩ := (FileTree.locate_text_eq_ok_iff hsound).1 hlocate
  rw [hways] at hwalk
  obtain ⟨rfl, hdirs, hsizes⟩ := (FileTree.walk_eq_ok_iff hnames).1 hwalk
  have hopen : t.Open d := hdirs
  refine FileTree.readFile_eq_ok_iff.2 ⟨d ++ [name], (FileTree.locate_text_eq_ok_iff hsound).2 ⟨hshort, ?_⟩, ?_⟩
  · rw [hways]
    refine (FileTree.walk_eq_ok_iff hnames).2 ⟨rfl, ?_, hsizes⟩
    intro j hj
    exact h.keeps_directory j (hj.trans hd) fun i hi ↦ hopen i (hi.trans hj)
  · exact h.keeps_document d name bytes hd hopen hentry hdocument

/-- The file stops no search: it can be passed, and if it can be read it is a text. -/
structure Harmless (limit : Toml.Limit) (t : FileTree) (file : Path) : Prop where
  not_blocks : ¬Blocks limit t file
  holdsText : HoldsText t file

theorem Thins.harmless (h : Thins limit t t' dir) (hfile : file.Sound) (hharmless : Harmless limit t file) :
    Harmless limit t' file := by
  refine ⟨?_, fun bytes hread ↦ hharmless.holdsText bytes (h.readFile_of hread)⟩
  rintro (hlong | ⟨bytes, text, hread, hdecode, hparse⟩)
  · exact hharmless.not_blocks (.inl (h.tooLong_of hfile hlong))
  · exact hharmless.not_blocks (.inr ⟨bytes, text, h.readFile_of hread, hdecode, hparse⟩)

theorem Thins.document?_eq (h : Thins limit t t' dir) (hloc : FileTree.IsLocation (d ++ [name])) (hd : d <+: dir) :
    document? limit t' (FileTree.locationPath (d ++ [name])) =
      document? limit t (FileTree.locationPath (d ++ [name])) := by
  ext root
  rw [document?_eq_some_iff, document?_eq_some_iff]
  constructor
  · rintro ⟨bytes, hread, hdocument⟩
    exact ⟨bytes, h.readFile_of hread, hdocument⟩
  · rintro ⟨bytes, hread, hdocument⟩
    exact ⟨bytes, h.readFile_document hloc hd hread (by simp [hdocument]), hdocument⟩

theorem Thins.inFile_eq (h : Thins limit t t' dir) (hloc : FileTree.IsLocation (d ++ [name])) (hd : d <+: dir)
    (hharmless : Harmless limit t (FileTree.locationPath (d ++ [name]))) :
    inFile limit t' (FileTree.locationPath (d ++ [name])) tables =
      inFile limit t (FileTree.locationPath (d ++ [name])) tables := by
  have hharmless' := h.harmless (sound_locationPath hloc) hharmless
  rw [Settings.inFile_eq hharmless'.not_blocks hharmless'.holdsText,
    Settings.inFile_eq hharmless.not_blocks hharmless.holdsText, h.document?_eq hloc hd]

theorem harmless_iff (tables : List (List String)) :
    Harmless limit t file ↔ ∀ f, inFile limit t file tables = .error f → f.table?.isSome := by
  constructor
  · rintro ⟨hpass, htext⟩ f hf
    obtain ⟨-, hin⟩ | ⟨before, table, after, v, -, -, -, hin⟩ := inFile_cases hpass htext tables
    · rw [hin] at hf
      cases hf
    · rw [hin] at hf
      cases v with
      | table entries =>
        cases hentries : ofEntries entries with
        | ok s => simp [ofTable, hentries, Except.map] at hf
        | error g =>
          simp only [ofTable, hentries, Except.map] at hf
          cases hf
          rfl
      | _ =>
        cases hf
        rfl
  · intro h
    refine ⟨fun hblocks ↦ ?_, fun bytes hread ↦ ?_⟩
    · obtain ⟨f, hf, hnone⟩ := inFile_of_blocks hblocks tables
      exact absurd (h f hf) (by simp [hnone])
    · cases hdecode : Text.Utf8.decode bytes with
      | ok text => exact ⟨text, rfl⟩
      | error g =>
        have hsome := h _ (inFile_of_undecodable hread hdecode tables)
        cases hsome

variable {cs ds : List Candidate} {files : List (Path × List (List String))}

/-- Up to the candidate that decides, all files are harmless. -/
def Clear (limit : Toml.Limit) (t : FileTree) : List Candidate → Prop
  | [] => True
  | c :: cs => Harmless limit t c.file ∧ (c.value? limit t = none → Clear limit t cs)

theorem clear_tables_iff (hne : tables ≠ []) : Clear limit t (tables.map (Candidate.mk file) ++ ds) ↔
    Harmless limit t file ∧ ((∀ table ∈ tables, Candidate.value? limit t ⟨file, table⟩ = none) → Clear limit t ds) := by
  induction tables with
  | nil => exact absurd rfl hne
  | cons table tables ih =>
    rw [List.map_cons, List.cons_append, Clear, List.forall_mem_cons]
    cases tables with
    | nil => simp
    | cons next tables =>
      rw [ih (by simp)]
      constructor
      · rintro ⟨hfile, hrest⟩
        exact ⟨hfile, fun hnone ↦ (hrest hnone.1).2 hnone.2⟩
      · rintro ⟨hfile, hrest⟩
        exact ⟨hfile, fun hnone ↦ ⟨hfile, fun hnones ↦ hrest ⟨hnone, hnones⟩⟩⟩

theorem inFile_eq_ok_none_iff (h : Harmless limit t file) :
    inFile limit t file tables = .ok none ↔ ∀ table ∈ tables, Candidate.value? limit t ⟨file, table⟩ = none := by
  refine ⟨value?_of_inFile, fun hnone ↦ ?_⟩
  obtain ⟨-, hin⟩ | ⟨before, table, after, v, rfl, -, hv, -⟩ := inFile_cases h.not_blocks h.holdsText tables
  · exact hin
  · rw [hnone table (by simp)] at hv
    cases hv

theorem firstFile_eq_iff (hne : ∀ f ∈ files, f.2 ≠ [])
    (hsame : ∀ f ∈ files, Harmless limit t f.1 → inFile limit t' f.1 f.2 = inFile limit t f.1 f.2) :
    (firstFile limit t' files = firstFile limit t files ∧ ∀ f, firstFile limit t files = .error f → f.table?.isSome) ↔
      Clear limit t (candidatesOf files) := by
  induction files with
  | nil => exact iff_of_true ⟨rfl, by simp [firstFile]⟩ trivial
  | cons f files ih =>
    obtain ⟨file, tables⟩ := f
    obtain ⟨htables, hnes⟩ := List.forall_mem_cons.1 hne
    obtain ⟨hfile, hfiles⟩ := List.forall_mem_cons.1 hsame
    rw [candidatesOf_cons, clear_tables_iff htables, firstFile, firstFile]
    by_cases hharmless : Harmless limit t file
    · rw [hfile hharmless, and_iff_right hharmless, ← inFile_eq_ok_none_iff hharmless]
      cases hin : inFile limit t file tables with
      | error f => simpa using (harmless_iff tables).1 hharmless f hin
      | ok found =>
        cases found with
        | some s => simp
        | none => simpa using ih hnes hfiles
    · -- the file ends the search, with a fault that is not that of a table
      refine iff_of_false ?_ fun h ↦ hharmless h.1
      rintro ⟨-, hfaults⟩
      refine hharmless ((harmless_iff tables).2 fun f hf ↦ ?_)
      rw [hf] at hfaults
      exact hfaults f rfl

theorem mem_searched {f : Path × List (List String)} (h : f ∈ searched loc) :
    ∃ d name, d <+: loc ∧ name ∈ candidates.map Prod.fst ∧ f.1 = FileTree.locationPath (d ++ [name]) := by
  obtain ⟨d, hd, hdir⟩ := List.mem_flatMap.1 h
  obtain ⟨c, hc, rfl⟩ := List.mem_map.1 hdir
  exact ⟨d, c.1, mem_upward.1 hd, List.mem_map_of_mem hc, rfl⟩

theorem isLocation_candidate (hloc : FileTree.IsLocation loc) (hd : d <+: loc)
    (hname : name ∈ candidates.map Prod.fst) : FileTree.IsLocation (d ++ [name]) := by
  refine List.forall_mem_append.2 ⟨fun c hc ↦ hloc c (hd.subset hc), List.forall_mem_singleton.2 ?_⟩
  obtain rfl | rfl : name = "pyproject.toml" ∨ name = ".thrift-sql.toml" := by simpa [candidates] using hname
  · exact ⟨⟨by decide, by decide, by decide, by decide⟩, by decide⟩
  · exact ⟨⟨by decide, by decide, by decide, by decide⟩, by decide⟩

/-- Where the way to `dir` goes through no directory with the name of a settings file, all of them are gone. -/
theorem pruned_eq (h : ∀ name ∈ dir, name ∉ candidates.map Prod.fst) : pruned limit t dir = pruned limit t [] := by
  have hsame : unreadable limit t dir = unreadable limit t [] := by
    funext loc
    unfold unreadable
    cases hlast : loc.getLast? with
    | none => simp
    | some name =>
      by_cases hname : name ∈ candidates.map Prod.fst
      · have hdir : loc.isPrefixOf dir = false := by
          rw [← Bool.not_eq_true, List.isPrefixOf_iff_prefix]
          intro habove
          exact h name (habove.subset (List.mem_of_getLast? hlast)) hname
        have hroot : loc.isPrefixOf [] = false := by
          rw [← Bool.not_eq_true, List.isPrefixOf_iff_prefix, List.prefix_nil]
          rintro rfl
          cases hlast
        cases hentry : t.find? loc with
        | none => rfl
        | some e => cases e <;> simp [hdir, hroot]
      · simp [hname]
  rw [pruned, pruned, hsame]

/-- Settings files that cannot be read are skipped. A search gives what it gives in the tree without them, with no fault
but that of a table, exactly if its path holds no null character and all files up to the one that decides are
harmless. -/
theorem load_pruned_iff (limit : Toml.Limit) (t : FileTree) (text : String) (hcurrent : FileTree.IsLocation t.current) :
    ((load limit (pruned limit t (t.resolve (Path.ofString text))) (Path.ofString text) =
          load limit t (Path.ofString text) ∧
        ∀ f, load limit t (Path.ofString text) = .error f → f.table?.isSome) ↔
      (∀ p ∈ (Path.ofString text).parts, '\x00' ∉ p.toList) ∧
        Clear limit t (candidatesUp (t.resolve (Path.ofString text)))) ∧
    (∀ k, unreadable limit t (t.resolve (Path.ofString text)) k →
      FileTree.find? (pruned limit t (t.resolve (Path.ofString text))) k = none) ∧
    ((∀ name ∈ t.resolve (Path.ofString text), name ∉ candidates.map Prod.fst) →
      pruned limit t (t.resolve (Path.ofString text)) = pruned limit t []) := by
  refine ⟨?_, fun k ↦ find?_pruned_of_unreadable, pruned_eq⟩
  by_cases hnull : ∀ p ∈ (Path.ofString text).parts, '\x00' ∉ p.toList
  · have hsound : (Path.ofString text).Sound := by
      intro c hc
      obtain ⟨hempty, hdot, hslash, -⟩ := Path.mem_parts_ofString hc
      exact ⟨hempty, hdot, hslash, hnull c hc⟩
    have hloc := FileTree.isLocation_resolve hcurrent hsound
    rw [load_of_no_null hnull, load_of_no_null hnull, and_iff_right hnull, ← candidatesOf_searched]
    refine firstFile_eq_iff (tables_ne_nil _) ?_
    rintro ⟨file, tables⟩ hf hharmless
    obtain ⟨d, name, hd, hname, rfl⟩ := mem_searched hf
    exact (thins_pruned limit t _).inFile_eq (isLocation_candidate hloc hd hname) hd hharmless
  · refine iff_of_false ?_ fun h ↦ hnull h.1
    rintro ⟨-, hfaults⟩
    exact absurd (hfaults _ (load_of_null hnull)) (by simp [SearchFault.table?])

theorem clear_of_forall (h : ∀ c ∈ cs, Harmless limit t c.file) : Clear limit t cs := by
  induction cs with
  | nil => trivial
  | cons c cs ih =>
    obtain ⟨hc, hcs⟩ := List.forall_mem_cons.1 h
    exact ⟨hc, fun _ ↦ ih hcs⟩

theorem load_pruned_above :
    FileTree.IsLocation settingsAbove.current ∧
    (pruned (.ofRoom 980) settingsAbove ["a"]).entries.map Prod.fst = [["a"], [".thrift-sql.toml"]] ∧
    load (.ofRoom 980) (pruned (.ofRoom 980) settingsAbove ["a"]) (Path.ofString "x/..") =
      load (.ofRoom 980) settingsAbove (Path.ofString "x/..") ∧
    ((load (.ofRoom 980) settingsAbove (Path.ofString "x/..")).toOption.bind fun s ↦
      (checkLimit .lineLength s.maxLineLength).toOption.map Subtype.val) = some 7 := by
  have hcurrent : FileTree.IsLocation settingsAbove.current :=
    List.forall_mem_singleton.2 ⟨⟨by decide, by decide, by decide, by decide⟩, by decide⟩
  have hresolve : settingsAbove.resolve (Path.ofString "x/..") = ["a"] := by decide
  have hread : ∀ c ∈ candidatesIn ["a"] ++ candidatesIn [],
      (inFile (.ofRoom 980) settingsAbove c.file []).toOption.isSome := by
    decide +kernel
  have hclear : Clear (.ofRoom 980) settingsAbove (candidatesUp ["a"]) := by
    rw [candidatesUp_one]
    apply clear_of_forall
    intro c hc
    refine (harmless_iff []).2 fun f hf ↦ ?_
    have hsome := hread c hc
    simp [hf, Except.toOption] at hsome
  have hload := (load_pruned_iff (.ofRoom 980) settingsAbove "x/.." hcurrent).1.2
  rw [hresolve] at hload
  refine ⟨hcurrent, by decide +kernel, (hload ⟨by decide, hclear⟩).1, by decide +kernel⟩

-- A directory that is searched stays, though it has the name of a settings file: with it, its settings would be gone.
example : let t : FileTree := ⟨[(["pyproject.toml"], .directory), (["pyproject.toml", "pyproject.toml"],
      .file (Text.Utf8.encode "tool.thrift-sql.max_line_length = 7".toList))], []⟩
    [t, pruned (.ofRoom 980) t ["pyproject.toml"], pruned (.ofRoom 980) t []].map (fun t ↦
      (load (.ofRoom 980) t (Path.ofString "pyproject.toml")).toOption.bind
        fun s ↦ (checkLimit .lineLength s.maxLineLength).toOption.map Subtype.val) = [some 7, some 7, some 10000] := by
  decide +kernel

def brokenSettings : FileTree where
  entries := [(["pyproject.toml"], .file [0xff])]
  current := []

/-- A search that does not skip a file it cannot decode. -/
theorem load_of_broken_settings :
    (∀ limit, load limit brokenSettings (Path.ofString ".") = .error (.undecodable ⟨0xff, 0, 1, .start⟩)) ∧
      (∀ limit, pruned limit brokenSettings [] = ⟨[], []⟩) ∧ ∀ limit, load limit ⟨[], []⟩ (Path.ofString ".") = .ok {} :=
  ⟨fun _ ↦ rfl, fun _ ↦ rfl, fun _ ↦ rfl⟩

end Settings

end SchemaDdl
