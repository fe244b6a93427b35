import Mathlib.Logic.Function.Iterate
import SchemaDdl.Proofs.FileTree
import SchemaDdl.Proofs.LineEnds

namespace SchemaDdl

@[simp]
theorem mapError_ok {α ε δ : Type} (f : ε → δ) (a : α) : (Except.ok a).mapError f = .ok a := rfl

@[simp]
theorem mapError_error {α ε δ : Type} (f : ε → δ) (e : ε) : (Except.error e : Except ε α).mapError f = .error (f e) := rfl

/-- What the system takes for one component. -/
structure IsComponent (c : String) : Prop where
  ne_empty : c ≠ ""
  ne_dot : c ≠ "."
  slash_not_mem : '/' ∉ c.toList
  null_not_mem : '\x00' ∉ c.toList

namespace Path

variable {p q : Path} {s extension : String} {directory : Option Path} {name : Option String}

def Sound (p : Path) : Prop := ∀ c ∈ p.parts, IsComponent c

theorem mem_parts_ofString {c : String} (h : c ∈ (ofString s).parts) :
    c ≠ "" ∧ c ≠ "." ∧ '/' ∉ c.toList ∧ c.toList ⊆ s.toList := by
  obtain ⟨hpiece, hkept⟩ := List.mem_filter.1 h
  obtain ⟨w, hw, rfl⟩ := List.mem_map.1 hpiece
  obtain ⟨hempty, hdot⟩ := of_decide_eq_true hkept
  rw [String.toList_ofList]
  exact ⟨hempty, hdot, Text.sep_not_mem_of_mem_pieces hw, Text.subset_of_mem_pieces hw⟩

theorem sound_ofString (h : '\x00' ∉ s.toList) : (ofString s).Sound := by
  intro c hc
  obtain ⟨hempty, hdot, hslash, hsub⟩ := mem_parts_ofString hc
  exact ⟨hempty, hdot, hslash, fun hnull ↦ h (hsub hnull)⟩

theorem sound_parent (h : p.Sound) : p.parent.Sound := by
  intro c hc
  exact h c (List.dropLast_subset p.parts hc)

theorem sound_iterate_parent (h : p.Sound) (n : Nat) : (parent^[n] p).Sound := by
  induction n with
  | zero => exact h
  | succ n ih =>
    rw [Function.iterate_succ_apply']
    exact sound_parent ih

theorem sound_join (hp : p.Sound) (hq : q.Sound) : (p.join q).Sound := by
  unfold join
  split
  · intro c hc
    obtain hc | hc := List.mem_append.1 hc
    · exact hp c hc
    · exact hq c hc
  · exact hq

theorem splitName_subset (s : List Char) : (splitName s).1 ⊆ s := by
  unfold splitName
  dsimp only
  split
  · exact List.Subset.refl s
  · exact List.take_subset _ s

theorem parts_of_name_ne_empty (h : p.name ≠ "") : p.parts = p.parent.parts ++ [p.name] := by
  have hparts : p.parts ≠ [] := by
    intro hnil
    rw [name, hnil] at h
    exact h rfl
  have hlast : p.name = p.parts.getLast hparts := by
    rw [name, List.getLastD_eq_getLast?, List.getLast?_eq_some_getLast hparts, Option.getD_some]
  rw [hlast]
  exact (List.dropLast_concat_getLast hparts).symm

theorem name_mem_parts (h : p.name ≠ "") : p.name ∈ p.parts := by
  rw [parts_of_name_ne_empty h]
  exact List.mem_append_right _ List.mem_cons_self

theorem null_not_mem_stem (h : p.Sound) : '\x00' ∉ p.stem.toList := by
  intro hnull
  rw [stem, String.toList_ofList] at hnull
  have hname : '\x00' ∈ p.name.toList := splitName_subset _ hnull
  have hne : p.name ≠ "" := by
    intro hempty
    rw [hempty] at hname
    cases hname
  exact (h _ (name_mem_parts hne)).null_not_mem hname

theorem sound_output (hp : p.Sound) (hdirectory : ∀ d ∈ directory, d.Sound) (hname : ∀ n ∈ name, '\x00' ∉ n.toList)
    (hextension : '\x00' ∉ extension.toList) : (p.output directory name extension).Sound := by
  have hdefault : '\x00' ∉ (p.stem ++ extension).toList := by
    rw [String.toList_append, List.mem_append]
    rintro (h | h)
    · exact null_not_mem_stem hp h
    · exact hextension h
  unfold output
  dsimp only
  apply sound_join
  · cases directory with
    | none => exact sound_parent hp
    | some d => exact hdirectory d rfl
  · apply sound_ofString
    cases name with
    | none => exact hdefault
    | some n =>
      by_cases hn : n = ""
      · simpa only [hn, if_true] using hdefault
      · simpa only [hn, if_false] using hname n rfl

theorem text_of_parts_ne_nil (h : p.parts ≠ []) : p.text = p.anchor.text ++ "/".intercalate p.parts := by
  unfold text
  split
  next hparts => exact absurd hparts h
  next => rfl

theorem text_of_parts_eq_nil (h : p.parts = []) : p.text = if p.anchor = .relative then "." else p.anchor.text := by
  obtain ⟨anchor, parts⟩ := p
  cases h
  cases anchor <;> rfl

theorem text_concat {anchor : Anchor} {parts : List String} (h : parts ≠ []) (c : String) :
    (Path.mk anchor (parts ++ [c])).text = (Path.mk anchor parts).text ++ "/" ++ c := by
  rw [text_of_parts_ne_nil (by simp), text_of_parts_ne_nil h, String.intercalate_append_of_ne_nil h (by simp),
    String.intercalate_singleton]
  simp only [String.append_assoc]

theorem parent_concat (anchor : Anchor) (parts : List String) (c : String) :
    (Path.mk anchor (parts ++ [c])).parent = ⟨anchor, parts⟩ := by
  rw [parent, List.dropLast_concat]

theorem name_concat (anchor : Anchor) (parts : List String) (c : String) :
    (Path.mk anchor (parts ++ [c])).name = c := by
  rw [name, List.getLastD_concat]

theorem parent_eq_self_iff : p.parent = p ↔ p.parts = [] := by
  obtain ⟨anchor, parts⟩ := p
  rw [parent, Path.mk.injEq]
  constructor
  · rintro ⟨-, h⟩
    have hlen : parts.dropLast.length = parts.length := congrArg List.length h
    rw [List.length_dropLast] at hlen
    have hzero : parts.length = 0 := by omega
    exact List.eq_nil_of_length_eq_zero hzero
  · rintro rfl
    exact ⟨rfl, rfl⟩

theorem utf8ByteSize_parent_le (h : p.Sound) : p.parent.text.utf8ByteSize ≤ p.text.utf8ByteSize := by
  obtain ⟨anchor, parts⟩ := p
  obtain rfl | ⟨init, c, rfl⟩ := List.eq_nil_or_concat parts
  · exact Nat.le_refl _
  rw [List.concat_eq_append] at h ⊢
  rw [parent_concat]
  by_cases hinit : init = []
  · subst hinit
    have hc : c.utf8ByteSize ≠ 0 := by
      rw [Ne, String.utf8ByteSize_eq_zero_iff]
      exact (h c (by simp)).ne_empty
    rw [text_of_parts_eq_nil rfl, text_of_parts_ne_nil (by simp), List.nil_append, String.intercalate_singleton,
      String.utf8ByteSize_append]
    cases anchor with
    | relative =>
      change 1 ≤ 0 + c.utf8ByteSize
      omega
    | root | doubleRoot => exact Nat.le_add_right _ _
  · rw [text_concat hinit, String.utf8ByteSize_append, String.utf8ByteSize_append]
    omega

theorem utf8ByteSize_iterate_parent_le (h : p.Sound) (n : Nat) :
    (parent^[n] p).text.utf8ByteSize ≤ p.text.utf8ByteSize := by
  induction n with
  | zero => exact Nat.le_refl _
  | succ n ih =>
    rw [Function.iterate_succ_apply']
    exact Nat.le_trans (utf8ByteSize_parent_le (sound_iterate_parent h n)) ih

theorem parts_iterate_parent (p : Path) (n : Nat) : (parent^[n] p).parts = p.parts.take (p.parts.length - n) := by
  induction n with
  | zero => simp
  | succ n ih =>
    rw [Function.iterate_succ_apply']
    change (parent^[n] p).parts.dropLast = _
    rw [ih, List.dropLast_eq_take, List.take_take, List.length_take]
    congr 1
    omega

theorem anchor_iterate_parent (p : Path) (n : Nat) : (parent^[n] p).anchor = p.anchor := by
  induction n with
  | zero => rfl
  | succ n ih =>
    rw [Function.iterate_succ_apply', ← ih]
    rfl

theorem utf8ByteSize_intercalate_le {parts : List String} {b : Nat} (h : ∀ c ∈ parts, c.utf8ByteSize ≤ b) :
    ("/".intercalate parts).utf8ByteSize ≤ parts.length * (b + 1) := by
  induction parts with
  | nil => simp
  | cons c cs ih =>
    obtain ⟨hc, hcs⟩ := List.forall_mem_cons.1 h
    have hrest := ih hcs
    have hslash : "/".utf8ByteSize = 1 := by decide
    rw [List.length_cons, Nat.add_mul]
    cases cs with
    | nil =>
      rw [String.intercalate_singleton]
      omega
    | cons d ds =>
      rw [String.intercalate_cons_cons, String.utf8ByteSize_append, String.utf8ByteSize_append]
      omega

theorem toList_text_of_parts_ne_nil (h : p.parts ≠ []) :
    p.text.toList = p.anchor.text.toList ++ List.intercalate ['/'] (p.parts.map String.toList) := by
  rw [text_of_parts_ne_nil h, String.toList_append, String.toList_intercalate]
  rfl

theorem null_not_mem_text (h : p.Sound) : '\x00' ∉ p.text.toList := by
  have hanchor : '\x00' ∉ p.anchor.text.toList := by cases p.anchor <;> decide
  by_cases hparts : p.parts = []
  · rw [text_of_parts_eq_nil hparts]
    split
    · decide
    · exact hanchor
  · rw [toList_text_of_parts_ne_nil hparts, List.mem_append]
    rintro (hnull | hnull)
    · exact hanchor hnull
    · obtain hslash | ⟨w, hw, hc⟩ := Text.mem_intercalate hnull
      · exact absurd hslash (by decide)
      · obtain ⟨c, hc', rfl⟩ := List.mem_map.1 hw
        exact (h c hc').null_not_mem hc

theorem head?_text (h : p.Sound) : p.text.toList.head? = some '/' ↔ p.anchor ≠ .relative := by
  obtain ⟨anchor, parts⟩ := p
  cases parts with
  | nil => cases anchor <;> decide
  | cons c cs =>
    rw [toList_text_of_parts_ne_nil (by simp)]
    cases anchor with
    | relative =>
      obtain ⟨d, ds, hd⟩ := List.exists_cons_of_ne_nil (mt String.toList_eq_nil_iff.1 (h c (by simp)).ne_empty)
      have hslash : d ≠ '/' := by
        rintro rfl
        exact (h c (by simp)).slash_not_mem (by simp [hd])
      cases cs with
      | nil => simp [Anchor.text, hd, hslash, List.intercalate]
      | cons k ks => simp [Anchor.text, hd, hslash]
    | root | doubleRoot => simp [Anchor.text]

end Path

namespace FileTree

variable {t : FileTree} {p : Path} {loc r : Location} {cs : List String}

theorem steps_text (h : p.Sound) : steps p.text = if p.parts = [] then ["."] else p.parts := by
  by_cases hparts : p.parts = []
  · obtain ⟨anchor, parts⟩ := p
    cases hparts
    cases anchor <;> decide
  · have hpieces : Text.pieces '/' (List.intercalate ['/'] (p.parts.map String.toList)) = p.parts.map String.toList := by
      apply Text.pieces_intercalate
      · intro w hw
        obtain ⟨c, hc, rfl⟩ := List.mem_map.1 hw
        exact (h c hc).slash_not_mem
      · simpa using hparts
    have hnil : [] ∉ p.parts.map String.toList := by
      intro hmem
      obtain ⟨c, hc, hempty⟩ := List.mem_map.1 hmem
      exact (h c hc).ne_empty (String.toList_eq_nil_iff.1 hempty)
    rw [if_neg hparts, steps, Path.toList_text_of_parts_ne_nil hparts]
    generalize List.intercalate ['/'] (p.parts.map String.toList) = cs at hpieces
    have hlast : (p.anchor.text.toList ++ cs).getLast? ≠ some '/' := by
      rw [List.getLast?_append]
      cases hl : cs.getLast? with
      | none =>
        rw [List.getLast?_eq_none_iff] at hl
        rw [hl] at hpieces
        exact absurd (by simp [← hpieces, Text.pieces]) hnil
      | some d =>
        rw [Option.some_or]
        intro hd
        cases hd
        obtain ⟨init, rfl⟩ := List.getLast?_eq_some_iff.1 hl
        rw [Text.pieces_concat] at hpieces
        exact absurd (by simp [← hpieces]) hnil
    have hwords : ((Text.pieces '/' (p.anchor.text.toList ++ cs)).map String.ofList).filter (· ≠ "") =
        p.parts.filter (· ≠ "") := by
      cases p.anchor <;> simp [Anchor.text, Text.pieces, hpieces]
    rw [if_neg hlast, hwords, List.append_nil, List.filter_eq_self]
    intro c hc
    exact decide_eq_true (h c hc).ne_empty

/-- A walk that arrives is where the components lead. -/
theorem eq_foldl_of_walk (hdot : "." ∉ cs) (h : t.walk loc cs = .ok r) :
    r = cs.foldl (fun loc c ↦ if c = ".." then loc.dropLast else loc ++ [c]) loc := by
  fun_induction walk t loc cs with
  | case1 loc => exact (Except.ok.inj h).symm
  | case2 | case5 | case7 => cases h
  | case3 loc cs hk ih => exact absurd (by simp) hdot
  | case4 loc cs hk hne ih =>
    rw [List.foldl_cons, if_pos rfl]
    exact ih (fun hmem ↦ hdot (.tail _ hmem)) h
  | case6 loc c cs hk hne hdots hlong ih =>
    rw [List.foldl_cons, if_neg hdots]
    exact ih (fun hmem ↦ hdot (.tail _ hmem)) h

theorem text_ne_empty (h : p.Sound) : p.text ≠ "" := by
  intro hempty
  have hsteps := steps_text h
  rw [hempty] at hsteps
  split at hsteps
  · exact absurd hsteps (by decide)
  next hparts => exact hparts hsteps.symm

def start (t : FileTree) (p : Path) : Location := if p.anchor = .relative then t.current else []

/-- The components that are followed from there. A path without any asks for the directory itself. -/
def ways (p : Path) : List String := if p.parts = [] then ["."] else p.parts

theorem locate_text (h : p.Sound) : t.locate p.text =
    if maxPath < p.text.utf8ByteSize then .error (.system ⟨.nameTooLong, p.text⟩)
    else (t.walk (t.start p) (ways p)).mapError fun e ↦ .system ⟨e, p.text⟩ := by
  have hstart : (if p.text.toList.head? = some '/' then [] else t.current) = t.start p := by
    rw [start, if_congr (Path.head?_text h) rfl rfl, ite_not]
  rw [locate, if_neg (Path.null_not_mem_text h), if_neg (text_ne_empty h), hstart, steps_text h, ways]
  split
  · rfl
  · generalize t.walk (t.start p) (if p.parts = [] then ["."] else p.parts) = walked
    cases walked <;> rfl

theorem locate_text_eq_ok_iff (h : p.Sound) : t.locate p.text = .ok loc ↔
    p.text.utf8ByteSize ≤ maxPath ∧ t.walk (t.start p) (ways p) = .ok loc := by
  rw [locate_text h]
  split
  next hlong => simp [Nat.not_le.2 hlong]
  next hshort =>
    rw [Nat.not_lt] at hshort
    cases t.walk (t.start p) (ways p) <;> simp [hshort]

/-- The path leads through a directory that is missing. -/
def Unreachable (t : FileTree) (path : String) : Prop := t.locate path = .error (.system ⟨.notFound, path⟩)

theorem unreachable_text_iff (h : p.Sound) : t.Unreachable p.text ↔
    p.text.utf8ByteSize ≤ maxPath ∧ t.walk (t.start p) (ways p) = .error .notFound := by
  rw [Unreachable, locate_text h]
  split
  next hlong => simp [Nat.not_le.2 hlong]
  next hshort =>
    rw [Nat.not_lt] at hshort
    cases t.walk (t.start p) (ways p) <;> simp [hshort]

theorem walk_append (t : FileTree) (loc : Location) (cs ds : List String) :
    t.walk loc (cs ++ ds) = (t.walk loc cs).bind fun k ↦ t.walk k ds := by
  fun_induction walk t loc cs with
  | case1 => rfl
  | case2 loc c cs hk => simp only [List.cons_append, walk, hk, Except.bind]
  | case3 loc cs hk ih => simp only [List.cons_append, walk, hk, if_true, ih]
  | case4 loc cs hk hdot ih => simp only [List.cons_append, walk, hk, hdot, if_true, if_false, ih]
  | case5 loc c cs hk hdot hdots hlong =>
    simp only [List.cons_append, walk, hk, hdot, hdots, hlong, if_true, if_false, Except.bind]
  | case6 loc c cs hk hdot hdots hlong ih =>
    simp only [List.cons_append, walk, hk, hdot, hdots, hlong, if_false, ih]
  | case7 loc c cs e hne hk => simp only [List.cons_append, walk, hk, Except.bind]

theorem walk_ways_concat (t : FileTree) (loc : Location) (anchor : Anchor) (parts : List String) (c : String) :
    t.walk loc (ways ⟨anchor, parts ++ [c]⟩) = (t.walk loc (ways ⟨anchor, parts⟩)).bind fun k ↦ t.walk k [c] := by
  by_cases hparts : parts = []
  · subst hparts
    simp only [ways, List.nil_append, List.cons_ne_nil, if_true, if_false]
    cases hloc : t.find? loc with
    | none => simp only [walk, hloc, Except.bind]
    | some e =>
      cases e with
      | file bytes | locked size => simp only [walk, hloc, Except.bind]
      | directory => simp only [walk, hloc, if_true, Except.bind]
  · rw [ways, ways, if_neg (by simp), if_neg hparts, walk_append]

theorem exists_locate_parent (h : p.Sound) (hl : t.locate p.text = .ok loc) : ∃ k, t.locate p.parent.text = .ok k := by
  obtain ⟨hshort, hwalk⟩ := (locate_text_eq_ok_iff h).1 hl
  have hshort' := Nat.le_trans (Path.utf8ByteSize_parent_le h) hshort
  have hparent := Path.sound_parent h
  obtain ⟨anchor, parts⟩ := p
  obtain rfl | ⟨init, c, rfl⟩ := List.eq_nil_or_concat parts
  · exact ⟨loc, hl⟩
  rw [List.concat_eq_append] at *
  rw [Path.parent_concat] at *
  rw [walk_ways_concat] at hwalk
  cases hinit : t.walk (t.start ⟨anchor, init ++ [c]⟩) (ways ⟨anchor, init⟩) with
  | error e =>
    rw [hinit] at hwalk
    cases hwalk
  | ok k => exact ⟨k, (locate_text_eq_ok_iff hparent).2 ⟨hshort', hinit⟩⟩

theorem unreachable_of_parent (h : p.Sound) (hshort : p.text.utf8ByteSize ≤ maxPath) (hp : t.Unreachable p.parent.text) :
    t.Unreachable p.text := by
  obtain ⟨anchor, parts⟩ := p
  obtain rfl | ⟨init, c, rfl⟩ := List.eq_nil_or_concat parts
  · exact hp
  obtain ⟨-, hwalk⟩ := (unreachable_text_iff (Path.sound_parent h)).1 hp
  rw [List.concat_eq_append] at *
  rw [Path.parent_concat] at hwalk
  refine (unreachable_text_iff h).2 ⟨hshort, ?_⟩
  rw [walk_ways_concat]
  change t.walk (t.start ⟨anchor, init ++ [c]⟩) (ways ⟨anchor, init⟩) = _ at hwalk
  rw [hwalk]
  rfl

theorem unreachable_of_first (h : p.Sound) (hshort : p.text.utf8ByteSize ≤ maxPath)
    (hstart : t.find? (t.start p) = some .directory) {c d : String} {rest : List String}
    (hparts : p.parts = c :: d :: rest) (hc : c ≠ "..") (hname : c.utf8ByteSize ≤ maxName)
    (hnone : t.find? (t.start p ++ [c]) = none) : t.Unreachable p.text := by
  have hdot : c ≠ "." := (h c (by simp [hparts])).ne_dot
  refine (unreachable_text_iff h).2 ⟨hshort, ?_⟩
  rw [ways, hparts, if_neg (List.cons_ne_nil c _), walk, hstart]
  dsimp only
  rw [if_neg hdot, if_neg hc, if_neg (Nat.not_lt.2 hname), walk, hnone]

theorem eq_resolve_of_locate (h : p.Sound) (hl : t.locate p.text = .ok loc) : loc = t.resolve p := by
  obtain ⟨-, hwalk⟩ := (locate_text_eq_ok_iff h).1 hl
  by_cases hparts : p.parts = []
  · rw [ways, if_pos hparts, walk] at hwalk
    split at hwalk
    · cases hwalk
    · rw [if_pos rfl, walk] at hwalk
      cases hwalk
      rw [resolve, hparts]
      rfl
    · cases hwalk
  · rw [ways, if_neg hparts] at hwalk
    exact eq_foldl_of_walk (fun hdot ↦ (h _ hdot).ne_dot rfl) hwalk

end FileTree

end SchemaDdl
