import SchemaDdl.SchemaFile

namespace SchemaDdl

namespace FileTree

variable {t t' : FileTree} {loc k r : Location} {e : Entry} {bytes : List UInt8} {path : String} {cs : List String}

theorem lookup_filter (p : Location → Bool) (k : Location) (entries : List (Location × Entry)) :
    (entries.filter (p ·.1)).lookup k = if p k then entries.lookup k else none := by
  induction entries with
  | nil => simp
  | cons x xs ih =>
    obtain ⟨l, e⟩ := x
    by_cases hk : k = l
    · subst hk
      cases hp : p k with
      | true => simp [hp]
      | false => simp [hp, ih]
    · have hkl : (k == l) = false := by simpa using hk
      cases hp : p l with
      | true => rw [List.filter_cons_of_pos (by simp [hp]), List.lookup_cons, List.lookup_cons, hkl, ih]
      | false => rw [List.filter_cons_of_neg (by simp [hp]), List.lookup_cons, hkl, ih]

theorem lookup_filter_ne (h : k ≠ loc) (entries : List (Location × Entry)) :
    (entries.filter (·.1 ≠ loc)).lookup k = entries.lookup k := by
  rw [lookup_filter (fun l ↦ decide (l ≠ loc)), if_pos (decide_eq_true h)]

theorem ne_nil_of_no_directory (h : t.find? loc ≠ some .directory) : loc ≠ [] := by
  rintro rfl
  exact h rfl

theorem find?_put_self (h : loc ≠ []) : FileTree.find? (t.put loc e) loc = some e := by
  simp [find?, put, h]

theorem find?_put_of_ne (h : k ≠ loc) : FileTree.find? (t.put loc e) k = t.find? k := by
  have hk : (k == loc) = false := by simpa using h
  simp only [find?, put, List.lookup_cons, hk, lookup_filter_ne h]

/-- A walk that no missing directory ends goes the same way in a tree that has kept the directories. -/
theorem walk_eq_of_directories (hkeep : ∀ k, t.find? k = some .directory → t'.find? k = some .directory)
    (hfound : t.walk k cs ≠ .error .notFound) (hdirectory : t.walk k cs ≠ .error .notDirectory) :
    t'.walk k cs = t.walk k cs := by
  fun_induction walk t k cs with
  | case1 => rfl
  | case2 => exact absurd rfl hfound
  | case3 k cs hk ih =>
    rw [walk, hkeep k hk]
    exact ih hfound hdirectory
  | case4 k cs hk hdot ih =>
    rw [walk, hkeep k hk]
    exact ih hfound hdirectory
  | case5 k c cs hk hdot hdots hlong =>
    rw [walk, hkeep k hk]
    dsimp only
    rw [if_neg hdot, if_neg hdots, if_pos hlong]
  | case6 k c cs hk hdot hdots hlong ih =>
    rw [walk, hkeep k hk]
    dsimp only
    rw [if_neg hdot, if_neg hdots, if_neg hlong]
    exact ih hfound hdirectory
  | case7 => exact absurd rfl hdirectory

theorem walk_mono (hkeep : ∀ k, t.find? k = some .directory → t'.find? k = some .directory)
    (h : t.walk k cs = .ok r) : t'.walk k cs = .ok r := by
  rw [walk_eq_of_directories hkeep (by simp [h]) (by simp [h]), h]

theorem locate_eq_ok_iff : t.locate path = .ok loc ↔
    '\x00' ∉ path.toList ∧ path ≠ "" ∧ path.utf8ByteSize ≤ maxPath ∧
      t.walk (if path.toList.head? = some '/' then [] else t.current) (steps path) = .ok loc := by
  unfold locate
  dsimp only
  by_cases hnull : '\x00' ∈ path.toList
  · simp [hnull]
  by_cases hempty : path = ""
  · simp [hempty]
  by_cases hlong : maxPath < path.utf8ByteSize
  · simp [hnull, hempty, hlong, Nat.not_le.2 hlong]
  rw [if_neg hnull, if_neg hempty, if_neg hlong]
  cases t.walk (if path.toList.head? = some '/' then [] else t.current) (steps path) with
  | error f => simp
  | ok k => simp [hnull, hempty, Nat.not_lt.1 hlong]

theorem walk_error {loc : Location} {cs : List String} {e : Errno} (h : t.walk loc cs = .error e) :
    e = .notFound ∨ e = .notDirectory ∨ e = .nameTooLong := by
  fun_induction walk t loc cs with
  | case1 => cases h
  | case2 | case5 | case7 =>
    cases h
    simp
  | case3 _ _ _ ih | case4 _ _ _ _ ih | case6 _ _ _ _ _ _ _ ih => exact ih h

theorem locate_error {f : AccessFault} (h : t.locate path = .error f) :
    f = .nullCharacter ∨ ∃ e, f = .system ⟨e, path⟩ ∧ (e = .notFound ∨ e = .notDirectory ∨ e = .nameTooLong) := by
  unfold locate at h
  dsimp only at h
  split at h
  · cases h
    exact .inl rfl
  right
  split at h
  · cases h
    exact ⟨_, rfl, by simp⟩
  split at h
  · cases h
    exact ⟨_, rfl, by simp⟩
  split at h
  · cases h
  next e hwalk =>
    cases h
    exact ⟨e, rfl, walk_error hwalk⟩

theorem locate_mono (hkeep : ∀ k, t.find? k = some .directory → t'.find? k = some .directory)
    (hcurrent : t'.current = t.current) (h : t.locate path = .ok r) : t'.locate path = .ok r := by
  obtain ⟨hnull, hempty, hlong, hwalk⟩ := locate_eq_ok_iff.1 h
  rw [← hcurrent] at hwalk
  exact locate_eq_ok_iff.2 ⟨hnull, hempty, hlong, walk_mono hkeep hwalk⟩

theorem locate_put_file (hloc : t.find? loc ≠ some .directory) (h : t.locate path = .ok r) :
    (t.put loc (.file bytes)).locate path = .ok r := by
  have hkeep (k : Location) (hk : t.find? k = some .directory) :
      FileTree.find? (t.put loc (.file bytes)) k = some .directory := by
    rw [find?_put_of_ne, hk]
    rintro rfl
    exact hloc hk
  exact locate_mono hkeep rfl h

/-- A file can be written here: there is none, or one that can be opened. -/
def Writable (t : FileTree) (loc : Location) : Prop := ∀ e, t.find? loc = some e → ∃ bytes, e = .file bytes

theorem Writable.not_directory (h : t.Writable loc) : t.find? loc ≠ some .directory := by
  intro hd
  obtain ⟨bytes, hbytes⟩ := h _ hd
  cases hbytes

theorem writable_put_file (h : loc ≠ []) : (t.put loc (.file bytes)).Writable loc := by
  intro e he
  rw [find?_put_self h] at he
  exact ⟨bytes, (Option.some.inj he).symm⟩

theorem writeFile_eq_ok_iff : t.writeFile path bytes = .ok t' ↔
    ∃ loc, t.locate path = .ok loc ∧ t.Writable loc ∧ t' = t.put loc (.file bytes) := by
  unfold writeFile Writable
  cases hl : t.locate path with
  | error f => simp [bind, Except.bind]
  | ok loc =>
    simp only [bind, Except.bind, Except.ok.injEq, exists_eq_left']
    cases hentry : t.find? loc with
    | none => simp [eq_comm]
    | some e =>
      cases e with
      | file => simp [eq_comm]
      | directory | locked => simp [refuse]

theorem readFile_of_writeFile (h : t.writeFile path bytes = .ok t') : t'.readFile path = .ok bytes := by
  obtain ⟨loc, hloc, hfree, rfl⟩ := writeFile_eq_ok_iff.1 h
  have hroot := ne_nil_of_no_directory hfree.not_directory
  simp only [readFile, stat, locate_put_file hfree.not_directory hloc, bind, Except.bind, find?_put_self hroot]

theorem exists_writeFile_of_writeFile {bytes' : List UInt8} (h : t.writeFile path bytes = .ok t') :
    ∃ t'', t'.writeFile path bytes' = .ok t'' := by
  obtain ⟨loc, hloc, hfree, rfl⟩ := writeFile_eq_ok_iff.1 h
  have hroot := ne_nil_of_no_directory hfree.not_directory
  exact ⟨_, writeFile_eq_ok_iff.2 ⟨loc, locate_put_file hfree.not_directory hloc, writable_put_file hroot, rfl⟩⟩

end FileTree

namespace SchemaFile

variable {depth : Nat} {t : FileTree} {path : Path}

theorem exists_writeFile_of_create (h : (create depth t path).2 = .ok ()) :
    ∃ t₀ : FileTree, t₀.writeFile path.text [] = .ok (create depth t path).1 := by
  unfold create at h ⊢
  dsimp only at h ⊢
  split at h
  next => cases h
  next => cases h
  next =>
    split at h
    next => cases h
    next =>
      split at h
      next => cases h
      next => cases h
      next t₀ hdirs =>
        split at h
        next t₁ hwrite => exact ⟨t₀, hwrite⟩
        next => cases h

theorem readFile_fill (h : (create depth t path).2 = .ok ()) (text : String) :
    (fill (create depth t path).1 path text).readFile path.text = .ok (Text.Utf8.encode text.toList) := by
  obtain ⟨t₀, ht₀⟩ := exists_writeFile_of_create h
  obtain ⟨t', ht'⟩ := FileTree.exists_writeFile_of_writeFile ht₀
  unfold fill
  rw [ht']
  exact FileTree.readFile_of_writeFile ht'

end SchemaFile

end SchemaDdl
