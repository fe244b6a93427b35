import SchemaDdl.Field
import SchemaDdl.Proofs.Text

namespace SchemaDdl

namespace Text

variable {word v s : String}

/-- The text is the word alone, or the word and a space and anything. -/
def BeginsWith (word s : String) : Prop := s = word ∨ (word ++ " ").toList <+: s.toList

/-- The longest text without a space that stands behind `front` in `s`. -/
structure IsLongestBehind (front s w : String) : Prop where
  space_not_mem : ' ' ∉ w.toList
  stands : (front ++ w).toList <+: s.toList
  length_le : ∀ v : String, ' ' ∉ v.toList → (front ++ v).toList <+: s.toList → v.length ≤ w.length

theorem BeginsWith.isPrefix (h : BeginsWith word s) : word.toList <+: s.toList := by
  rcases h with rfl | ⟨more, hmore⟩
  · exact List.prefix_refl _
  · exact ⟨" ".toList ++ more, by rw [← hmore, String.toList_append, List.append_assoc]⟩

theorem BeginsWith.length_le (h : BeginsWith word s) (hv : ' ' ∉ v.toList) (hvs : v.toList <+: s.toList) :
    v.length ≤ word.length := by
  rw [← String.length_toList, ← String.length_toList]
  rcases h with rfl | hword
  · exact hvs.length_le
  apply Nat.le_of_not_lt
  intro hlt
  -- a longer one would go on with the space behind the word
  have hspace : (word ++ " ").toList <+: v.toList := by
    apply List.prefix_of_prefix_length_le hword hvs
    rw [String.toList_append, List.length_append]
    exact hlt
  exact hv (hspace.subset (by simp))

theorem BeginsWith.unique (hw : BeginsWith word s) (hv : BeginsWith v s) (hws : ' ' ∉ word.toList)
    (hvs : ' ' ∉ v.toList) : word = v := by
  have hlength : word.length = v.length :=
    Nat.le_antisymm (hv.length_le hws hw.isPrefix) (hw.length_le hvs hv.isPrefix)
  rw [← String.length_toList, ← String.length_toList] at hlength
  have hle : word.toList <+: v.toList :=
    List.prefix_of_prefix_length_le hw.isPrefix hv.isPrefix (Nat.le_of_eq hlength)
  exact String.toList_inj.1 (hle.eq_of_length hlength)

/-- The pieces of a text between single spaces. -/
def spaced (s : String) : List String := (pieces ' ' s.toList).map String.ofList

theorem spaced_of_not_mem (hs : ' ' ∉ s.toList) : spaced s = [s] := by
  rw [spaced, pieces_of_not_mem hs, List.map_singleton, String.ofList_toList]

theorem spaced_append (hs : ' ' ∉ s.toList) (behind : String) : spaced (s ++ " " ++ behind) = s :: spaced behind := by
  have hlist : (s ++ " " ++ behind).toList = s.toList ++ ' ' :: behind.toList := by simp
  rw [spaced, hlist, pieces_append_cons hs, List.map_cons, String.ofList_toList, spaced]

theorem spaced_cases (s : String) : ' ' ∉ s.toList ∧ spaced s = [s] ∨
    ∃ first behind, ' ' ∉ first.toList ∧ s = first ++ " " ++ behind ∧ spaced s = first :: spaced behind := by
  by_cases h : ' ' ∈ s.toList
  · obtain ⟨first, behind, hs, hfirst⟩ := List.eq_append_cons_of_mem h
    have hspace : ' ' ∉ (String.ofList first).toList := by simpa using hfirst
    obtain rfl : s = String.ofList first ++ " " ++ String.ofList behind := by
      apply String.toList_inj.1
      simp [hs]
    exact .inr ⟨_, _, hspace, rfl, spaced_append hspace _⟩
  · exact .inl ⟨h, spaced_of_not_mem h⟩

theorem exists_spaced_eq_cons (s : String) :
    ∃ first rest, spaced s = first :: rest ∧ ' ' ∉ first.toList ∧ BeginsWith first s := by
  rcases spaced_cases s with ⟨hs, heq⟩ | ⟨first, behind, hfirst, rfl, heq⟩
  · exact ⟨s, [], heq, hs, .inl rfl⟩
  · exact ⟨first, spaced behind, heq, hfirst, .inr ⟨behind.toList, by simp⟩⟩

theorem intercalate_spaced (s : String) : " ".intercalate (spaced s) = s := by
  apply String.toList_inj.1
  rw [String.toList_intercalate, spaced, List.map_map]
  have hlists : (pieces ' ' s.toList).map (String.toList ∘ String.ofList) = pieces ' ' s.toList := by simp
  rw [hlists]
  exact intercalate_pieces ' ' s.toList

theorem space_not_mem_of_mem_spaced : ∀ t ∈ spaced s, ' ' ∉ t.toList := by
  intro t ht
  obtain ⟨w, hw, rfl⟩ := List.mem_map.1 ht
  rw [String.toList_ofList]
  exact sep_not_mem_of_mem_pieces hw

theorem tight_trim (t : String) : Tight isBlank (trim t).toList := by
  rw [trim, String.toList_ofList]
  exact tight_dropEnds

theorem head?_of_beginsWith (hs : Tight isBlank s.toList) (hw : BeginsWith word s) :
    word.toList.head? = s.toList.head? := by
  rcases hw with rfl | ⟨more, hmore⟩
  · rfl
  cases hword : word.toList with
  | nil =>
    have hspace : s.toList.head? = some ' ' := by simp [← hmore, hword]
    exact absurd (hs.1 ' ' hspace) (by decide)
  | cons c cs => simp [← hmore, hword]

end Text

open Text

theorem tokens_eq_spaced (text : String) : tokens text = spaced (trim text) := by
  rw [spaced, trim, String.toList_ofList, tokens]

theorem LineKind.ofTokens_cons_eq_iff (first : String) (rest : List String) :
    (ofTokens (first :: rest) = .record ↔ first = "struct") ∧
    (ofTokens (first :: rest) = .enumeration ↔ first = "enum") ∧
    (ofTokens (first :: rest) = .field ↔ ∃ c, first.toList.head? = some c ∧ isDigit c) ∧
    (ofTokens (first :: rest) = .close ↔ first.toList.head? = some '\x7d') := by
  by_cases hs : first = "struct"
  · subst hs
    have hdigit : isDigit 's' = false := by decide
    simp [ofTokens, hdigit]
  by_cases he : first = "enum"
  · subst he
    have hdigit : isDigit 'e' = false := by decide
    simp [ofTokens, hdigit]
  have hbrace : isDigit '\x7d' = false := by decide
  cases hf : first.toList with
  | nil => simp [ofTokens, hs, he, hf]
  | cons c cs =>
    cases hdigit : isDigit c with
    | true =>
      have hc : c ≠ '\x7d' := by
        rintro rfl
        rw [hbrace] at hdigit
        cases hdigit
      simp [ofTokens, hs, he, hf, hdigit, hc]
    | false =>
      by_cases hc : c = '\x7d' <;> simp [ofTokens, hs, he, hf, hdigit, hbrace, hc]

theorem LineKind.eq_noise_iff (k : LineKind) :
    k = .noise ↔ k ≠ .record ∧ k ≠ .enumeration ∧ k ≠ .field ∧ k ≠ .close := by
  cases k <;> simp

/-- There is nothing to be read as a name: the text ends with the keyword, or there is a second space behind it. -/
def LacksName (keyword s : String) : Prop := s = keyword ∨ (keyword ++ "  ").toList <+: s.toList

theorem lacksName_append_iff {keyword behind : String} :
    LacksName keyword (keyword ++ " " ++ behind) ↔ behind.toList.head? = some ' ' := by
  have hone : " ".toList = [' '] := rfl
  have htwo : "  ".toList = [' ', ' '] := rfl
  constructor
  · rintro (hbare | ⟨more, hmore⟩)
    · have hlength := congrArg String.length hbare
      have hspace : " ".length = 1 := rfl
      rw [String.length_append, String.length_append] at hlength
      omega
    · simp only [String.toList_append, hone, htwo, List.append_assoc, List.append_cancel_left_eq] at hmore
      have hbehind : ' ' :: more = behind.toList := (List.cons.inj hmore).2
      rw [← hbehind]
      rfl
  · intro hhead
    obtain ⟨more, hmore⟩ := List.head?_eq_some_iff.1 hhead
    refine .inr ⟨more, ?_⟩
    simp only [String.toList_append, hone, htwo, hmore, List.append_assoc]
    rfl

theorem blockName_spaced {keyword s : String} (hs : Tight isBlank s.toList) (hk : ' ' ∉ keyword.toList)
    (h : BeginsWith keyword s) (line : SourceLine) :
    LacksName keyword s ∧ blockName (spaced s) line = .error (.malformed line (.unnamedBlock keyword)) ∨
    ¬LacksName keyword s ∧ ∃ name, blockName (spaced s) line = .ok name ∧ IsLongestBehind (keyword ++ " ") s name := by
  rcases spaced_cases s with ⟨hspace, heq⟩ | ⟨first, behind, hfirst, rfl, heq⟩
  · obtain rfl : keyword = s := h.unique (.inl rfl) hk hspace
    exact .inl ⟨.inl rfl, by rw [heq, blockName]⟩
  obtain rfl : keyword = first := h.unique (.inr ⟨behind.toList, by simp⟩) hk hfirst
  obtain ⟨name, rest, hrest, hname, hbegins⟩ := exists_spaced_eq_cons behind
  rw [heq, hrest, lacksName_append_iff]
  by_cases hempty : name = ""
  · refine .inl ⟨?_, by rw [blockName, if_pos hempty]⟩
    rcases hbegins with rfl | ⟨more, hmore⟩
    · -- the text would end with the space behind the keyword
      have hlast := hs.2 ' ' (by simp [hempty])
      exact absurd hlast (by decide)
    · rw [← hmore, hempty]
      rfl
  · refine .inr ⟨?_, name, by rw [blockName, if_neg hempty], hname, ?_, ?_⟩
    · intro hhead
      obtain ⟨c, cs, hcs⟩ := List.exists_cons_of_ne_nil (mt String.toList_eq_nil_iff.1 hempty)
      obtain ⟨more, hmore⟩ := hbegins.isPrefix
      rw [← hmore, hcs, List.cons_append, List.head?_cons] at hhead
      obtain rfl := Option.some.inj hhead
      exact hname (by simp [hcs])
    · simpa using hbegins.isPrefix
    · intro v hv hstands
      apply hbegins.length_le hv
      simpa using hstands

/-- The tokens of a line are its trimmed text, cut at every space. Its kind is told by the beginning of that text. The
name in a header is what stands behind the keyword and one space, up to the next space. -/
theorem reading_of_trimmed_text (text : String) :
    " ".intercalate (tokens text) = trim text ∧ (∀ t ∈ tokens text, ' ' ∉ t.toList) ∧
    (LineKind.ofTokens (tokens text) = .record ↔ BeginsWith "struct" (trim text)) ∧
    (LineKind.ofTokens (tokens text) = .enumeration ↔ BeginsWith "enum" (trim text)) ∧
    (LineKind.ofTokens (tokens text) = .field ↔ ∃ c, (trim text).toList.head? = some c ∧ isDigit c) ∧
    (LineKind.ofTokens (tokens text) = .close ↔ (trim text).toList.head? = some '\x7d') ∧
    (LineKind.ofTokens (tokens text) = .noise ↔
      ¬BeginsWith "struct" (trim text) ∧ ¬BeginsWith "enum" (trim text) ∧
        ¬(∃ c, (trim text).toList.head? = some c ∧ isDigit c) ∧ (trim text).toList.head? ≠ some '\x7d') ∧
    (∀ keyword line,
      LineKind.ofTokens (tokens text) = .record ∧ keyword = "struct" ∨
        LineKind.ofTokens (tokens text) = .enumeration ∧ keyword = "enum" →
      blockName (tokens text) line ≠ .error .noTokens ∧
      ((∃ cause, blockName (tokens text) line = .error (.malformed line cause)) ↔ LacksName keyword (trim text)) ∧
      (¬LacksName keyword (trim text) →
        ∃ name, blockName (tokens text) line = .ok name ∧ IsLongestBehind (keyword ++ " ") (trim text) name)) := by
  obtain ⟨first, rest, hfirst, hspace, hbegins⟩ := exists_spaced_eq_cons (trim text)
  have hhead : first.toList.head? = (trim text).toList.head? := head?_of_beginsWith (tight_trim text) hbegins
  -- a word without a space is the first token exactly if the text begins with it
  have hword : ∀ word : String, ' ' ∉ word.toList → (first = word ↔ BeginsWith word (trim text)) := by
    intro word hw
    constructor
    · rintro rfl
      exact hbegins
    · intro h
      exact hbegins.unique h hspace hw
  have hstruct := hword "struct" (by decide)
  have henum := hword "enum" (by decide)
  obtain ⟨hrecord, henumeration, hfield, hclose⟩ := LineKind.ofTokens_cons_eq_iff first rest
  rw [hstruct] at hrecord
  rw [henum] at henumeration
  rw [hhead] at hfield hclose
  rw [tokens_eq_spaced, hfirst]
  refine ⟨?_, ?_, hrecord, henumeration, hfield, hclose, ?_, ?_⟩
  · rw [← hfirst, intercalate_spaced]
  · rw [← hfirst]
    exact space_not_mem_of_mem_spaced
  · rw [LineKind.eq_noise_iff, Ne, Ne, Ne, Ne, hrecord, henumeration, hfield, hclose]
  · intro keyword line hkind
    have hkeyword : ' ' ∉ keyword.toList ∧ BeginsWith keyword (trim text) := by
      rcases hkind with ⟨hkind, rfl⟩ | ⟨hkind, rfl⟩
      · exact ⟨by decide, hrecord.1 hkind⟩
      · exact ⟨by decide, henumeration.1 hkind⟩
    rw [← hfirst]
    rcases blockName_spaced (tight_trim text) hkeyword.1 hkeyword.2 line with
      ⟨hlacks, hblock⟩ | ⟨hlacks, name, hblock, hname⟩
    · rw [hblock]
      exact ⟨by simp, iff_of_true ⟨_, rfl⟩ hlacks, fun hnot ↦ absurd hlacks hnot⟩
    · rw [hblock]
      exact ⟨by simp, iff_of_false (by simp) hlacks, fun _ ↦ ⟨name, rfl, hname⟩⟩

end SchemaDdl
