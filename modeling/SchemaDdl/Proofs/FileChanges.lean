import SchemaDdl.Proofs.PathText

namespace SchemaDdl

namespace FileTree

variable {t t' t'' : FileTree} {p : Path} {loc k : Location} {e : Entry} {path : String}

/-- From `t` to `t'` nothing changes but the place of `p`, and empty places above it that are directories now. -/
structure ChangesOnly (p : Path) (t t' : FileTree) : Prop where
  current_eq : t'.current = t.current
  changed : ∀ loc, t'.find? loc ≠ t.find? loc → loc = t.resolve p ∨
    t.find? loc = none ∧ t'.find? loc = some .directory ∧ ∃ n, loc = t.resolve (Path.parent^[n + 1] p)

theorem resolve_congr (h : t'.current = t.current) (p : Path) : t'.resolve p = t.resolve p := by
  simp only [resolve, h]

theorem ChangesOnly.refl (p : Path) (t : FileTree) : ChangesOnly p t t := ⟨rfl, fun _ h ↦ absurd rfl h⟩

theorem ChangesOnly.trans (h : ChangesOnly p t t') (h' : ChangesOnly p t' t'') : ChangesOnly p t t'' := by
  refine ⟨h'.current_eq.trans h.current_eq, ?_⟩
  intro loc hloc
  by_cases hfirst : t'.find? loc = t.find? loc
  · rw [← hfirst] at hloc ⊢
    have hchanged := h'.changed loc hloc
    simp only [resolve_congr h.current_eq] at hchanged
    exact hchanged
  by_cases hsecond : t''.find? loc = t'.find? loc
  · rw [hsecond]
    exact h.changed loc hfirst
  · left
    obtain hplace | ⟨hnone, -⟩ := h'.changed loc hsecond
    · rwa [resolve_congr h.current_eq] at hplace
    · -- the first change would have been a removal
      obtain hplace | ⟨-, hdir, -⟩ := h.changed loc hfirst
      · exact hplace
      · rw [hnone] at hdir
        cases hdir

theorem find?_erase_of_ne (h : k ≠ loc) : FileTree.find? (t.erase loc) k = t.find? k := by
  simp only [find?, erase, lookup_filter_ne h]

theorem changesOnly_erase (hloc : loc = t.resolve p) : ChangesOnly p t (t.erase loc) := by
  refine ⟨rfl, ?_⟩
  intro k hk
  left
  by_contra hne
  exact hk (find?_erase_of_ne (hloc ▸ hne))

theorem changesOnly_put (hloc : loc = t.resolve p) : ChangesOnly p t (t.put loc e) := by
  refine ⟨rfl, ?_⟩
  intro k hk
  left
  by_contra hne
  exact hk (find?_put_of_ne (hloc ▸ hne))

theorem changesOnly_put_directory (hnone : t.find? loc = none) (n : Nat) (hloc : loc = t.resolve (Path.parent^[n] p)) :
    ChangesOnly p t (t.put loc .directory) := by
  cases n with
  | zero => exact changesOnly_put hloc
  | succ n =>
    refine ⟨rfl, ?_⟩
    intro k hk
    right
    have hplace : k = loc := by
      by_contra hne
      exact hk (find?_put_of_ne hne)
    subst hplace
    have hdir : t.find? k ≠ some .directory := by simp [hnone]
    have hroot : k ≠ [] := ne_nil_of_no_directory hdir
    exact ⟨hnone, find?_put_self hroot, n, hloc⟩

theorem removeFile_eq_ok (h : t.removeFile path = .ok t') :
    ∃ loc e, t.locate path = .ok loc ∧ t.find? loc = some e ∧ e ≠ .directory ∧ t' = t.erase loc := by
  unfold removeFile at h
  cases hloc : t.locate path with
  | error f =>
    rw [hloc] at h
    cases h
  | ok loc =>
    simp only [hloc, bind, Except.bind] at h
    split at h
    next => cases h
    next => cases h
    next e hne hentry =>
      cases h
      exact ⟨loc, e, rfl, hentry, hne, rfl⟩

theorem removeIfPresent_eq_ok (h : t.removeIfPresent path = .ok t') :
    t' = t ∨ ∃ loc e, t.locate path = .ok loc ∧ t.find? loc = some e ∧ e ≠ .directory ∧ t' = t.erase loc := by
  unfold removeIfPresent at h
  split at h
  next hremoved =>
    cases h
    exact .inr (removeFile_eq_ok hremoved)
  next =>
    split at h
    · cases h
      exact .inl rfl
    · cases h
  next => cases h

theorem makeDirectory_eq_ok (h : t.makeDirectory path = .ok t') :
    ∃ loc, t.locate path = .ok loc ∧ t.find? loc = none ∧ t' = t.put loc .directory := by
  unfold makeDirectory at h
  cases hloc : t.locate path with
  | error f =>
    rw [hloc] at h
    cases h
  | ok loc =>
    simp only [hloc, bind, Except.bind] at h
    split at h
    next hnone =>
      cases h
      exact ⟨loc, rfl, hnone, rfl⟩
    next => cases h

theorem ensureDirectory_eq_ok (h : t.ensureDirectory path = .ok t') :
    t' = t ∨ ∃ loc, t.locate path = .ok loc ∧ t.find? loc = none ∧ t' = t.put loc .directory := by
  unfold ensureDirectory at h
  split at h
  next hmade =>
    cases h
    exact .inr (makeDirectory_eq_ok hmade)
  next => cases h
  next =>
    split at h
    · cases h
    · split at h
      next =>
        cases h
        exact .inl rfl
      next => cases h
      next => cases h

theorem changesOnly_ensureDirectory (hp : p.Sound) (n : Nat)
    (h : t.ensureDirectory (Path.parent^[n] p).text = .ok t') : ChangesOnly p t t' := by
  obtain rfl | ⟨loc, hloc, hnone, rfl⟩ := ensureDirectory_eq_ok h
  · exact .refl p t'
  · exact changesOnly_put_directory hnone n (eq_resolve_of_locate (Path.sound_iterate_parent hp n) hloc)

theorem changesOnly_ensureDirectories (hp : p.Sound) (depth n : Nat) (t : FileTree) :
    ChangesOnly p t (ensureDirectories depth t (Path.parent^[n] p)).1 := by
  -- all directories that are tried stand above `p`, so `n` goes up with the recursion
  generalize hq : Path.parent^[n] p = q
  have hnext {n : Nat} {q : Path} (hq : Path.parent^[n] p = q) : Path.parent^[n + 1] p = q.parent := by
    rw [Function.iterate_succ_apply', hq]
  fun_induction ensureDirectories depth t q generalizing n with
  | case1 depth q t' hmade => exact changesOnly_ensureDirectory hp n (hq ▸ hmade)
  | case2 | case3 | case7 => exact .refl p t
  | case4 q _ _ _ depth t₁ f hrest ih =>
    rw [hrest] at ih
    exact ih (n + 1) (hnext hq)
  | case5 q _ _ _ depth t₁ hrest t₂ hmade ih =>
    rw [hrest] at ih
    exact (ih (n + 1) (hnext hq)).trans (changesOnly_ensureDirectory hp n (hq ▸ hmade))
  | case6 q _ _ _ depth t₁ hrest f hf ih =>
    rw [hrest] at ih
    exact ih (n + 1) (hnext hq)

section Null

variable {α β : Type} (hpath : '\x00' ∉ path.toList)

theorem bind_ne_null {x : Except AccessFault α} {f : α → Except AccessFault β} (hx : x ≠ .error .nullCharacter)
    (hf : ∀ a, f a ≠ .error .nullCharacter) : x >>= f ≠ .error .nullCharacter := by
  cases x with
  | error g =>
    intro h
    cases h
    exact hx rfl
  | ok a => exact hf a

theorem isDirectory_ne_null : t.isDirectory path ≠ .error .nullCharacter := by
  unfold isDirectory test
  split
  · simp
  · simp
  · split <;> simp

include hpath

theorem locate_ne_null : t.locate path ≠ .error .nullCharacter := by
  unfold locate
  dsimp only
  rw [if_neg hpath]
  split
  · simp
  · split
    · simp
    · split <;> simp

theorem removeIfPresent_ne_null : t.removeIfPresent path ≠ .error .nullCharacter := by
  have hremove : t.removeFile path ≠ .error .nullCharacter := by
    apply bind_ne_null (locate_ne_null hpath)
    intro loc
    split <;> simp [refuse]
  unfold removeIfPresent
  split
  · simp
  · split <;> simp
  next h => exact absurd h hremove

theorem ensureDirectory_ne_null : t.ensureDirectory path ≠ .error .nullCharacter := by
  have hmake : t.makeDirectory path ≠ .error .nullCharacter := by
    apply bind_ne_null (locate_ne_null hpath)
    intro loc
    split <;> simp [refuse]
  unfold ensureDirectory
  split
  · simp
  next h => exact absurd h hmake
  · split
    · simp
    · split
      · simp
      · simp
      next f h =>
        intro hf
        cases hf
        exact isDirectory_ne_null h

theorem writeFile_ne_null (bytes : List UInt8) : t.writeFile path bytes ≠ .error .nullCharacter := by
  apply bind_ne_null (locate_ne_null hpath)
  intro loc
  split <;> simp [refuse]

theorem stat_ne_null : t.stat path ≠ .error .nullCharacter := by
  apply bind_ne_null (locate_ne_null hpath)
  intro loc
  split <;> simp [refuse]

end Null

theorem ensureDirectories_ne_null (hp : p.Sound) (depth : Nat) (t : FileTree) :
    (ensureDirectories depth t p).2 ≠ .error (.access .nullCharacter) := by
  have hnull {q : Path} (hq : q.Sound) (t : FileTree) : t.ensureDirectory q.text ≠ .error .nullCharacter :=
    ensureDirectory_ne_null (Path.null_not_mem_text hq)
  fun_induction ensureDirectories depth t p with
  | case1 | case2 | case3 | case5 => simp
  | case4 p _ _ _ depth t₁ f hrest ih =>
    rw [hrest] at ih
    exact ih (Path.sound_parent hp)
  | case6 p _ _ _ depth t₁ hrest f hf ih =>
    intro h
    cases h
    exact hnull hp t₁ hf
  | case7 depth p f hne hf =>
    intro h
    cases h
    exact hnull hp t hf

theorem ensureDirectory_of_locate_error {f : AccessFault} (h : t.locate path = .error f) :
    t.ensureDirectory path = .error f := by
  have hmake : t.makeDirectory path = .error f := by rw [makeDirectory, h]; rfl
  have hstat : t.stat path = .error f := by rw [stat, h]; rfl
  unfold ensureDirectory
  rw [hmake]
  cases f with
  | nullCharacter => rfl
  | system g =>
    obtain ⟨errno, other⟩ := g
    cases errno <;> simp [isDirectory, test, hstat]

theorem ensureDirectory_of_locate_ok (h : t.locate path = .ok loc) {f : SystemFault}
    (hf : t.ensureDirectory path = .error (.system f)) : f.errno = .exists := by
  cases hloc : t.find? loc with
  | none =>
    have hmake : t.makeDirectory path = .ok (t.put loc .directory) := by simp [makeDirectory, h, hloc, bind, Except.bind]
    rw [ensureDirectory, hmake] at hf
    cases hf
  | some e =>
    have hmake : t.makeDirectory path = refuse .exists path := by simp [makeDirectory, h, hloc, bind, Except.bind]
    have hstat : t.stat path = .ok e := by simp [stat, h, hloc, bind, Except.bind]
    rw [ensureDirectory, hmake] at hf
    cases e with
    | directory => simp [refuse, isDirectory, test, hstat] at hf
    | file bytes | locked size =>
      simp only [refuse, isDirectory, test, hstat] at hf
      cases hf
      rfl

theorem unreachable_of_ensureDirectory {other : String}
    (h : t.ensureDirectory path = .error (.system ⟨.notFound, other⟩)) : t.Unreachable path := by
  cases hloc : t.locate path with
  | ok loc => cases ensureDirectory_of_locate_ok hloc h
  | error f =>
    rw [ensureDirectory_of_locate_error hloc] at h
    cases h
    obtain hnull | ⟨e, hsystem, -⟩ := locate_error hloc
    · cases hnull
    · cases hsystem
      exact hloc

theorem ensureDirectories_of_unreachable {depth : Nat} (hlen : depth < p.parts.length)
    (h : ∀ n ≤ depth, t.Unreachable (Path.parent^[n] p).text) : ensureDirectories depth t p = (t, .error .tooDeep) := by
  induction depth generalizing p with
  | zero =>
    have hparent : p.parent ≠ p := mt Path.parent_eq_self_iff.1 (List.ne_nil_of_length_pos hlen)
    have hself : t.Unreachable p.text := h 0 (Nat.le_refl 0)
    rw [ensureDirectories, ensureDirectory_of_locate_error hself]
    dsimp only
    rw [if_neg hparent]
  | succ depth ih =>
    have hparent : p.parent ≠ p := mt Path.parent_eq_self_iff.1 (List.ne_nil_of_length_pos (by omega))
    have habove : ensureDirectories depth t p.parent = (t, .error .tooDeep) := by
      apply ih
      · rw [Path.parent, List.length_dropLast]
        omega
      · intro n hn
        exact h (n + 1) (by omega)
    have hself : t.Unreachable p.text := h 0 (by omega)
    rw [ensureDirectories, ensureDirectory_of_locate_error hself]
    dsimp only
    rw [if_neg hparent, habove]

theorem unreachable_of_ensureDirectories {depth : Nat} (h : (ensureDirectories depth t p).2 = .error .tooDeep) :
    depth < p.parts.length ∧ ∀ n ≤ depth, t.Unreachable (Path.parent^[n] p).text := by
  fun_induction ensureDirectories depth t p with
  | case1 | case2 | case5 | case6 | case7 => cases h
  | case3 p other hfirst hparent =>
    refine ⟨List.length_pos_iff.2 (mt Path.parent_eq_self_iff.2 hparent), ?_⟩
    intro n hn
    obtain rfl : n = 0 := Nat.le_zero.1 hn
    exact unreachable_of_ensureDirectory hfirst
  | case4 p other hfirst hparent depth t₁ f hrest ih =>
    rw [hrest] at ih
    obtain ⟨hlen, hall⟩ := ih h
    rw [Path.parent, List.length_dropLast] at hlen
    refine ⟨by omega, ?_⟩
    intro n hn
    cases n with
    | zero => exact unreachable_of_ensureDirectory hfirst
    | succ n => exact hall n (by omega)

/-- The directory of `p` is missing, and so are all above it that can be tried. -/
structure Buried (depth : Nat) (t : FileTree) (p : Path) : Prop where
  deep : depth + 1 < p.parts.length
  short : p.text.utf8ByteSize ≤ maxPath
  missing : ∀ n ≤ depth, t.Unreachable (Path.parent^[n + 1] p).text

theorem buried_of_first {depth : Nat} (hp : p.Sound) (hshort : p.text.utf8ByteSize ≤ maxPath)
    (hstart : t.find? (t.start p) = some .directory) (hdeep : depth + 2 < p.parts.length) {c d : String}
    {rest : List String} (hparts : p.parts = c :: d :: rest) (hc : c ≠ "..") (hname : c.utf8ByteSize ≤ maxName)
    (hnone : t.find? (t.start p ++ [c]) = none) : Buried depth t p := by
  refine ⟨by omega, hshort, ?_⟩
  intro n hn
  have hfrom : t.start (Path.parent^[n + 1] p) = t.start p := by rw [start, start, Path.anchor_iterate_parent]
  have hlen : p.parts.length - (n + 1) = rest.length - (n + 1) + 2 := by
    rw [hparts, List.length_cons, List.length_cons] at hdeep ⊢
    omega
  have hfirst : (Path.parent^[n + 1] p).parts = c :: d :: rest.take (rest.length - (n + 1)) := by
    rw [Path.parts_iterate_parent, hlen, hparts, List.take_succ_cons, List.take_succ_cons]
  refine unreachable_of_first (Path.sound_iterate_parent hp (n + 1)) ?_ (hfrom ▸ hstart) hfirst hc hname (hfrom ▸ hnone)
  exact Nat.le_trans (Path.utf8ByteSize_iterate_parent_le hp (n + 1)) hshort

end FileTree

namespace SchemaFile

open FileTree

variable {depth : Nat} {t t' : FileTree} {path : Path}

/-- The ways in which the making of an output file goes. -/
inductive Creates (depth : Nat) (t : FileTree) (path : Path) : FileTree → Except FileFault Unit → Prop
  | directory : t.isDirectory path.text = .ok true → Creates depth t path t (.error (.uncreatable path .directory))
  | unknown (e : AccessFault) : t.isDirectory path.text = .error e → Creates depth t path t (.error (sinkFault path e))
  | kept (e : AccessFault) : t.removeIfPresent path.text = .error e → Creates depth t path t (.error (sinkFault path e))
  | tooDeep (t₁ t₂ : FileTree) : t.isDirectory path.text = .ok false → t.removeIfPresent path.text = .ok t₁ →
      ensureDirectories depth t₁ path.parent = (t₂, .error .tooDeep) → Creates depth t path t₂ (.error .tooDeep)
  | noDirectory (t₁ t₂ : FileTree) (e : AccessFault) : t.removeIfPresent path.text = .ok t₁ →
      ensureDirectories depth t₁ path.parent = (t₂, .error (.access e)) →
      Creates depth t path t₂ (.error (sinkFault path e))
  | unwritten (t₁ t₂ : FileTree) (e : AccessFault) : t.removeIfPresent path.text = .ok t₁ →
      ensureDirectories depth t₁ path.parent = (t₂, .ok ()) → t₂.writeFile path.text [] = .error e →
      Creates depth t path t₂ (.error (sinkFault path e))
  | made (t₁ t₂ t₃ : FileTree) : t.removeIfPresent path.text = .ok t₁ →
      ensureDirectories depth t₁ path.parent = (t₂, .ok ()) → t₂.writeFile path.text [] = .ok t₃ →
      Creates depth t path t₃ (.ok ())

theorem creates_create (depth : Nat) (t : FileTree) (path : Path) :
    Creates depth t path (create depth t path).1 (create depth t path).2 := by
  unfold create
  dsimp only
  cases hdir : t.isDirectory path.text with
  | error e => exact .unknown e hdir
  | ok isDir =>
    cases isDir with
    | true => exact .directory hdir
    | false =>
      cases hremove : t.removeIfPresent path.text with
      | error e => exact .kept e hremove
      | ok t₁ =>
        dsimp only
        match hmade : ensureDirectories depth t₁ path.parent with
        | (t₂, .error .tooDeep) => exact .tooDeep t₁ t₂ hdir hremove hmade
        | (t₂, .error (.access e)) => exact .noDirectory t₁ t₂ e hremove hmade
        | (t₂, .ok ()) =>
          dsimp only
          cases hwrite : t₂.writeFile path.text [] with
          | error e => exact .unwritten t₁ t₂ e hremove hmade hwrite
          | ok t₃ => exact .made t₁ t₂ t₃ hremove hmade hwrite

theorem sinkFault_ne_null {e : AccessFault} (h : e ≠ .nullCharacter) : sinkFault path e ≠ .nullCharacter := by
  cases e with
  | system f => simp [sinkFault]
  | nullCharacter => exact absurd rfl h

theorem sinkFault_ne_tooDeep {e : AccessFault} : sinkFault path e ≠ .tooDeep := by
  cases e <;> simp [sinkFault]

theorem Creates.ne_null {r : Except FileFault Unit} (h : Creates depth t path t' r) (hp : path.Sound) :
    r ≠ .error .nullCharacter := by
  have hpath := Path.null_not_mem_text hp
  have hsink {e : AccessFault} (h : e ≠ .nullCharacter) :
      (.error (sinkFault path e) : Except FileFault Unit) ≠ .error .nullCharacter := by
    simpa using sinkFault_ne_null h
  cases h with
  | directory => simp
  | unknown e h => exact hsink fun he ↦ isDirectory_ne_null (he ▸ h)
  | kept e h => exact hsink fun he ↦ removeIfPresent_ne_null hpath (he ▸ h)
  | tooDeep => simp
  | noDirectory t₁ t₂ e _ h =>
    apply hsink
    rintro rfl
    exact ensureDirectories_ne_null (Path.sound_parent hp) depth t₁ (by rw [h])
  | unwritten t₁ t₂ e _ _ h => exact hsink fun he ↦ writeFile_ne_null hpath [] (he ▸ h)
  | made => simp

theorem changesOnly_removeIfPresent {t₁ : FileTree} (hp : path.Sound) (h : t.removeIfPresent path.text = .ok t₁) :
    ChangesOnly path t t₁ := by
  obtain rfl | ⟨loc, e, hloc, -, -, rfl⟩ := removeIfPresent_eq_ok h
  · exact .refl path t₁
  · exact changesOnly_erase (eq_resolve_of_locate hp hloc)

theorem changesOnly_writeFile {t₁ : FileTree} {bytes : List UInt8} (hp : path.Sound)
    (h : t.writeFile path.text bytes = .ok t₁) : ChangesOnly path t t₁ := by
  obtain ⟨loc, hloc, -, rfl⟩ := writeFile_eq_ok_iff.1 h
  exact changesOnly_put (eq_resolve_of_locate hp hloc)

theorem Creates.changesOnly {r : Except FileFault Unit} (h : Creates depth t path t' r) (hp : path.Sound) :
    ChangesOnly path t t' := by
  have hmade {t₁ t₂ : FileTree} {r : Except DirectoryFault Unit} (hremove : t.removeIfPresent path.text = .ok t₁)
      (h : ensureDirectories depth t₁ path.parent = (t₂, r)) : ChangesOnly path t t₂ := by
    have habove := changesOnly_ensureDirectories hp depth 1 t₁
    rw [Function.iterate_one, h] at habove
    exact (changesOnly_removeIfPresent hp hremove).trans habove
  cases h with
  | directory => exact .refl path t
  | unknown => exact .refl path t
  | kept => exact .refl path t
  | tooDeep t₁ t₂ _ hremove h => exact hmade hremove h
  | noDirectory t₁ t₂ e hremove h => exact hmade hremove h
  | unwritten t₁ t₂ e hremove h => exact hmade hremove h
  | made t₁ t₂ t₃ hremove h hwrite => exact (hmade hremove h).trans (changesOnly_writeFile hp hwrite)

theorem not_buried_of_present {loc : Location} {e : Entry} (hp : path.Sound) (hloc : t.locate path.text = .ok loc)
    (hentry : t.find? loc = some e) (hne : e ≠ .directory) : ¬(t.erase loc).Unreachable path.parent.text := by
  obtain ⟨k, hk⟩ := exists_locate_parent hp hloc
  have hkeep (j : Location) (hj : t.find? j = some .directory) : FileTree.find? (t.erase loc) j = some .directory := by
    rw [find?_erase_of_ne, hj]
    rintro rfl
    rw [hentry] at hj
    exact hne (Option.some.inj hj)
  have hk' : (t.erase loc).locate path.parent.text = .ok k := locate_mono hkeep rfl hk
  intro hlost
  rw [Unreachable, hk'] at hlost
  cases hlost

theorem short_of_isDirectory {b : Bool} (hp : path.Sound) (h : t.isDirectory path.text = .ok b) :
    path.text.utf8ByteSize ≤ maxPath := by
  by_contra hlong
  have hlocate : t.locate path.text = .error (.system ⟨.nameTooLong, path.text⟩) := by
    rw [locate_text hp, if_pos (Nat.not_le.1 hlong)]
  have hstat : t.stat path.text = .error (.system ⟨.nameTooLong, path.text⟩) := by
    rw [stat, hlocate]
    rfl
  simp [isDirectory, test, hstat] at h

theorem Creates.buried {r : Except FileFault Unit} (h : Creates depth t path t' r) (hp : path.Sound)
    (hr : r = .error .tooDeep) : t' = t ∧ Buried depth t path := by
  cases h with
  | directory => cases hr
  | unknown e => exact absurd (Except.error.inj hr) sinkFault_ne_tooDeep
  | kept e => exact absurd (Except.error.inj hr) sinkFault_ne_tooDeep
  | noDirectory t₁ t₂ e => exact absurd (Except.error.inj hr) sinkFault_ne_tooDeep
  | unwritten t₁ t₂ e => exact absurd (Except.error.inj hr) sinkFault_ne_tooDeep
  | made => cases hr
  | tooDeep t₁ t₂ hdir hremove hmade =>
    have hdeep : (ensureDirectories depth t₁ path.parent).2 = .error .tooDeep := by rw [hmade]
    obtain ⟨hlen, hall⟩ := unreachable_of_ensureDirectories hdeep
    -- a file that was there to be removed would have had its directories
    have hkept : t₁ = t := by
      obtain hkept | ⟨loc, e, hloc, hentry, hne, rfl⟩ := removeIfPresent_eq_ok hremove
      · exact hkept
      · exact absurd (hall 0 (Nat.zero_le depth)) (not_buried_of_present hp hloc hentry hne)
    subst hkept
    rw [ensureDirectories_of_unreachable hlen hall] at hmade
    refine ⟨(Prod.mk.inj hmade).1.symm, ?_, short_of_isDirectory hp hdir, hall⟩
    rw [Path.parent, List.length_dropLast] at hlen
    omega

theorem create_of_buried (hp : path.Sound) (h : Buried depth t path) : create depth t path = (t, .error .tooDeep) := by
  have hlost : t.Unreachable path.text := unreachable_of_parent hp h.short (h.missing 0 (Nat.zero_le depth))
  have hstat : t.stat path.text = .error (.system ⟨.notFound, path.text⟩) := by
    rw [stat, hlost]
    rfl
  have hdir : t.isDirectory path.text = .ok false := by simp [isDirectory, test, hstat]
  have hremove : t.removeFile path.text = .error (.system ⟨.notFound, path.text⟩) := by
    rw [removeFile, hlost]
    rfl
  have hkeep : t.removeIfPresent path.text = .ok t := by simp [removeIfPresent, hremove]
  have hdeep : ensureDirectories depth t path.parent = (t, .error .tooDeep) := by
    refine ensureDirectories_of_unreachable ?_ h.missing
    have hlen := h.deep
    rw [Path.parent, List.length_dropLast]
    omega
  simp only [create, hdir, hkeep, hdeep]

theorem changesOnly_fill (hp : path.Sound) (text : String) : ChangesOnly path t (fill t path text) := by
  unfold fill
  split
  next h => exact changesOnly_writeFile hp h
  next => exact .refl path t

end SchemaFile

end SchemaDdl
