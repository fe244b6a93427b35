import Mathlib.Data.List.TakeWhile
import SchemaDdl.Proofs.PathText
import SchemaDdl.Settings

namespace SchemaDdl.Path

variable {p : Path} {s before behind : List Char} {c extension : String}

theorem splitName_of_not_mem (h : '.' ∉ s) : splitName s = (s, []) := by
  have hall : s.reverse.takeWhile (· ≠ '.') = s.reverse := by
    rw [List.takeWhile_eq_self_iff]
    intro d hd
    exact decide_eq_true fun hdot ↦ h (hdot ▸ List.mem_reverse.1 hd)
  simp only [splitName]
  rw [hall, List.reverse_reverse, Nat.sub_self]
  rfl

theorem splitName_append_dot (h : '.' ∉ behind) :
    splitName (before ++ '.' :: behind) =
      if before = [] ∨ behind = [] then (before ++ '.' :: behind, []) else (before, '.' :: behind) := by
  have hbehind : (before ++ '.' :: behind).reverse.takeWhile (· ≠ '.') = behind.reverse := by
    rw [List.reverse_append, List.reverse_cons, List.append_assoc, List.takeWhile_append_of_pos]
    · simp
    · intro d hd
      exact decide_eq_true fun hdot ↦ h (hdot ▸ List.mem_reverse.1 hd)
  have hlength : (before ++ '.' :: behind).length - behind.length - 1 = before.length := by
    rw [List.length_append, List.length_cons]
    omega
  simp only [splitName]
  rw [hbehind, List.reverse_reverse, hlength, List.take_left]
  simp only [List.isEmpty_iff]

/-- A name is left whole, or it is cut before its last dot into two parts that are more than the dot. -/
theorem splitName_cases (s : List Char) : splitName s = (s, []) ∨
    ∃ before behind, before ≠ [] ∧ behind ≠ [] ∧ '.' ∉ behind ∧ s = before ++ '.' :: behind ∧
      splitName s = (before, '.' :: behind) := by
  by_cases h : '.' ∈ s
  · obtain ⟨tail, init, hs, htail⟩ := List.eq_append_cons_of_mem (List.mem_reverse.2 h)
    have hs : s = init.reverse ++ '.' :: tail.reverse := by
      rw [← List.reverse_reverse s, hs, List.reverse_append, List.reverse_cons, List.append_assoc]
      rfl
    have hdot : '.' ∉ tail.reverse := fun hmem ↦ htail (List.mem_reverse.1 hmem)
    by_cases hparts : init.reverse = [] ∨ tail.reverse = []
    · left
      rw [hs, splitName_append_dot hdot, if_pos hparts]
    · right
      rw [not_or] at hparts
      refine ⟨init.reverse, tail.reverse, hparts.1, hparts.2, hdot, hs, ?_⟩
      rw [hs, splitName_append_dot hdot, if_neg (not_or.2 hparts)]
  · exact .inl (splitName_of_not_mem h)

theorem stem_append_suffix (p : Path) : p.stem ++ p.suffix = p.name := by
  apply String.toList_inj.1
  rw [stem, suffix, String.toList_append, String.toList_ofList, String.toList_ofList]
  rcases splitName_cases p.name.toList with h | ⟨before, behind, -, -, -, hname, h⟩
  · rw [h, List.append_nil]
  · rw [h, hname]

theorem stem_ne_empty (h : p.name ≠ "") : p.stem ≠ "" := by
  intro hstem
  rw [stem, String.ofList_eq_empty_iff] at hstem
  rcases splitName_cases p.name.toList with hs | ⟨before, behind, hbefore, -, -, -, hs⟩
  · rw [hs] at hstem
    exact h (String.toList_eq_nil_iff.1 hstem)
  · rw [hs] at hstem
    exact hbefore hstem

theorem stem_eq_dot_iff (h : p.name ≠ ".") :
    p.stem = "." ↔ ∃ tail : String, tail ≠ "" ∧ '.' ∉ tail.toList ∧ p.name = ".." ++ tail := by
  constructor
  · intro hstem
    rcases splitName_cases p.name.toList with hs | ⟨before, behind, -, hbehind, hdot, hname, hs⟩
    · rw [stem, hs, String.ofList_toList] at hstem
      exact absurd hstem h
    · rw [stem, hs] at hstem
      have hbefore : before = ['.'] := by rw [← String.toList_ofList (l := before), hstem]; rfl
      refine ⟨String.ofList behind, ?_, ?_, ?_⟩
      · rw [Ne, String.ofList_eq_empty_iff]
        exact hbehind
      · rwa [String.toList_ofList]
      · apply String.toList_inj.1
        rw [hname, hbefore, String.toList_append, String.toList_ofList (l := behind)]
        rfl
  · rintro ⟨tail, htail, hdot, hname⟩
    have hlist : p.name.toList = ['.'] ++ '.' :: tail.toList := by
      rw [hname, String.toList_append]
      rfl
    have hparts : ¬(['.'] = [] ∨ tail.toList = []) := by
      rintro (hnil | hnil)
      · cases hnil
      · exact htail (String.toList_eq_nil_iff.1 hnil)
    rw [stem, hlist, splitName_append_dot hdot, if_neg hparts]

theorem ofString_component (hempty : c ≠ "") (hdot : c ≠ ".") (hslash : '/' ∉ c.toList) :
    ofString c = ⟨.relative, [c]⟩ := by
  have hanchor : c.toList.takeWhile (· = '/') = [] := by
    rw [List.takeWhile_eq_nil_iff]
    intro hpos hfirst
    exact hslash (of_decide_eq_true hfirst ▸ List.getElem_mem hpos)
  have hparts : components c.toList = [c] := by
    rw [components, Text.pieces_of_not_mem hslash, List.map_singleton, String.ofList_toList, List.filter_cons_of_pos]
    · rfl
    · exact decide_eq_true ⟨hempty, hdot⟩
  rw [ofString, hanchor, hparts]
  rfl

theorem slash_not_mem_stem {file : String} (h : (ofString file).name ≠ "") : '/' ∉ (ofString file).stem.toList := by
  rw [stem, String.toList_ofList]
  intro hslash
  exact (mem_parts_ofString (name_mem_parts h)).2.2.1 (splitName_subset _ hslash)

theorem exists_cons_of_isExtension {stem : String} (hstem : stem ≠ "") (h : IsExtension extension) :
    ∃ first rest behind, stem.toList = first :: rest ∧ extension.toList = '.' :: behind := by
  obtain ⟨first, rest, hrest⟩ := List.exists_cons_of_ne_nil fun hnil ↦ hstem (String.toList_eq_nil_iff.1 hnil)
  obtain ⟨behind, hbehind⟩ := List.head?_eq_some_iff.1 h.1
  exact ⟨first, rest, behind, hrest, hbehind⟩

theorem one_lt_length_append {stem : String} (hstem : stem ≠ "") (h : IsExtension extension) :
    1 < (stem ++ extension).length := by
  obtain ⟨first, rest, behind, hfirst, hbehind⟩ := exists_cons_of_isExtension hstem h
  rw [← String.length_toList, String.toList_append, hfirst, hbehind, List.length_append, List.length_cons,
    List.length_cons]
  omega

theorem append_eq_dots_iff {stem : String} (hstem : stem ≠ "") (h : IsExtension extension) :
    stem ++ extension = ".." ↔ stem = "." ∧ extension = "." := by
  constructor
  · intro heq
    obtain ⟨first, rest, behind, hfirst, hbehind⟩ := exists_cons_of_isExtension hstem h
    have hlist : first :: (rest ++ '.' :: behind) = ['.', '.'] := by
      rw [← List.cons_append, ← hfirst, ← hbehind, ← String.toList_append, heq]
      rfl
    obtain ⟨rfl, hmore⟩ := List.cons.inj hlist
    cases rest with
    | nil =>
      obtain rfl : behind = [] := (List.cons.inj hmore).2
      exact ⟨String.toList_inj.1 hfirst, String.toList_inj.1 hbehind⟩
    | cons second rest =>
      have hnil : rest ++ '.' :: behind = [] := (List.cons.inj hmore).2
      exact absurd hnil (List.append_ne_nil_of_right_ne_nil rest (List.cons_ne_nil _ _))
  · rintro ⟨rfl, rfl⟩
    rfl

theorem stem_append_extension {file : String} (hfile : (ofString file).name ≠ "") (h : IsExtension extension) :
    (ofString file).stem ++ extension ≠ "" ∧ (ofString file).stem ++ extension ≠ "." ∧
      '/' ∉ ((ofString file).stem ++ extension).toList := by
  have hlength := one_lt_length_append (stem_ne_empty hfile) h
  have hshort : ∀ t : String, t.length ≤ 1 → (ofString file).stem ++ extension ≠ t := by
    rintro t ht rfl
    exact absurd hlength (Nat.not_lt.2 ht)
  refine ⟨hshort "" (by decide), hshort "." (by decide), ?_⟩
  rw [String.toList_append, List.mem_append, not_or]
  exact ⟨slash_not_mem_stem hfile, h.2.1⟩

theorem output_of_no_name {name : Option String} {file : String} (hfile : (ofString file).name ≠ "")
    (h : IsExtension extension) (hname : name = none ∨ name = some "") (directory : Option Path) :
    (ofString file).output directory name extension =
      ⟨(directory.getD (ofString file).parent).anchor,
        (directory.getD (ofString file).parent).parts ++ [(ofString file).stem ++ extension]⟩ := by
  obtain ⟨hempty, hdot, hslash⟩ := stem_append_extension hfile h
  have hcomponent := ofString_component hempty hdot hslash
  rcases hname with rfl | rfl
  · rw [output, hcomponent]
    rfl
  · rw [output, if_pos rfl, hcomponent]
    rfl

theorem concat_stem_eq_iff (h : p.name ≠ "") (extension : String) :
    Path.mk p.parent.anchor (p.parent.parts ++ [p.stem ++ extension]) = p ↔ p.suffix = extension := by
  have hp : p = ⟨p.parent.anchor, p.parent.parts ++ [p.stem ++ p.suffix]⟩ := by
    rw [stem_append_suffix, ← parts_of_name_ne_empty h]
    rfl
  constructor
  · intro heq
    have hlast : p.stem ++ extension = p.stem ++ p.suffix := by
      rw [← name_concat p.parent.anchor p.parent.parts (p.stem ++ extension), heq, stem_append_suffix]
    exact ((String.append_right_inj p.stem).1 hlast).symm
  · rintro rfl
    exact hp.symm

/-- The script of a schema without a name for it stands in the given directory, or else beside the schema, as the one
component of the stem and the extension. The component is neither empty nor a single dot. It is two dots exactly if the
extension is a single dot and the schema's name is two dots and a text without dots, which has a single dot for a stem.
Without a directory the script takes the schema's own place exactly if the schema has the extension. -/
theorem output_of_no_name_stays (file extension : String) (directory name : Option String) (settings : Settings)
    (o : Options) (hfile : (ofString file).name ≠ "") (hextension : settings.extension = .text extension)
    (hcheck : settings.check = .ok o) (hname : name = none ∨ name = some "") :
    ∃ out, (ofString file).output (directory.map ofString) name extension = out ∧
      out.parent = (directory.map ofString).getD (ofString file).parent ∧
      out.parts = out.parent.parts ++ [(ofString file).stem ++ extension] ∧
      out.name = (ofString file).stem ++ extension ∧
      out.name ≠ "" ∧ out.name ≠ "." ∧ '/' ∉ out.name.toList ∧
      (out.name = ".." ↔ extension = "." ∧
        ∃ tail : String, tail ≠ "" ∧ '.' ∉ tail.toList ∧ (ofString file).name = ".." ++ tail) ∧
      (directory = none → (out = ofString file ↔ (ofString file).suffix = extension)) := by
  have he : IsExtension extension := by
    rw [Settings.check_eq_ok_iff.1 hcheck] at hextension
    obtain rfl : o.extension = extension := Value.text.inj hextension
    exact o.isExtension
  have hdot : (ofString file).name ≠ "." := (mem_parts_ofString (name_mem_parts hfile)).2.1
  obtain ⟨hempty, hsingle, hslash⟩ := stem_append_extension hfile he
  refine ⟨_, output_of_no_name hfile he hname (directory.map ofString), parent_concat _ _ _, ?_⟩
  rw [parent_concat, name_concat]
  refine ⟨rfl, rfl, hempty, hsingle, hslash, ?_, ?_⟩
  · rw [append_eq_dots_iff (stem_ne_empty hfile) he, stem_eq_dot_iff hdot, and_comm]
  · rintro rfl
    exact concat_stem_eq_iff hfile extension

theorem output_of_no_name_stays_behind_dots :
    (ofString "idl//..b./").name ≠ "" ∧
      ({ extension := .text ".." } : Settings).check =
        .ok ⟨"..", false, 10485760, 10000, by decide, by decide, by decide⟩ ∧
      ∃ out, (ofString "idl//..b./").output (some (ofString "//sql/..")) (some "") ".." = out ∧
        out.parent = ofString "//sql/.." ∧ out.name = "..b..." ∧ out.name ≠ ".." := by
  have hfile : (ofString "idl//..b./").name ≠ "" := by decide
  refine ⟨hfile, rfl, ?_⟩
  obtain ⟨out, hout, hparent, -, hname, -, -, -, hdots, -⟩ :=
    output_of_no_name_stays "idl//..b./" ".." (some "//sql/..") (some "") { extension := .text ".." } _ hfile rfl rfl
      (.inr rfl)
  have hstem : (ofString "idl//..b./").stem ++ ".." = "..b..." := by decide
  refine ⟨out, hout, hparent, hname.trans hstem, ?_⟩
  intro hlast
  exact absurd (hdots.1 hlast).1 (by decide)

/-- The lone dot is an extension, and behind the stem of a single dot it makes the directory above. -/
theorem output_of_lone_dot :
    (∃ o, ({ extension := .text "." } : Settings).check = .ok o ∧ o.extension = ".") ∧
      (ofString "d/..x").name ≠ "" ∧ ((ofString "d/..x").output none none ".").name = ".." := by
  exact ⟨⟨⟨".", false, 10485760, 10000, by decide, by decide, by decide⟩, rfl, rfl⟩, by decide, by decide⟩

end SchemaDdl.Path
