import SchemaDdl.Proofs.LineText
import SchemaDdl.Proofs.Uppercase

namespace SchemaDdl

open Text

/-- What may stand behind the name of a field and is no part of it. -/
def separators : List String := ["", ":", ",", ";", ":,", ":;"]

/-- The longest separator that the token ends with. -/
structure IsLongestSeparator (token suffix : String) : Prop where
  mem : suffix ∈ separators
  stands : suffix.toList <:+ token.toList
  length_le : ∀ other ∈ separators, other.toList <:+ token.toList → other.length ≤ suffix.length

section Separators

variable {token name suffix other : String} {c : Char}

theorem IsLongestSeparator.unique (h : IsLongestSeparator token suffix) (h' : IsLongestSeparator token other) :
    suffix = other := by
  have hlength : suffix.length = other.length :=
    Nat.le_antisymm (h'.length_le suffix h.mem h.stands) (h.length_le other h'.mem h'.stands)
  rw [← String.length_toList, ← String.length_toList] at hlength
  have hsuffix := List.suffix_of_suffix_length_le h.stands h'.stands (Nat.le_of_eq hlength)
  exact String.toList_inj.1 (hsuffix.eq_of_length hlength)

/-- No separator ends in `c` followed by `suffix`. -/
def Stops (c : Char) (suffix : String) : Prop := ∀ other ∈ separators, ¬c :: suffix.toList <:+ other.toList

theorem stops_of_not_mem (h : c ∉ [':', ',', ';']) : Stops c suffix := by
  have hchars : ∀ other ∈ separators, other.toList ⊆ [':', ',', ';'] := by decide
  intro other hother hstands
  exact h (hchars other hother (hstands.subset (by simp)))

/-- A colon is always the first character of a separator. -/
theorem stops_colon (c : Char) (rest : List Char) : Stops c (String.ofList (':' :: rest)) := by
  simp [Stops, separators, List.suffix_cons_iff]

/-- Nothing but a colon stands in front of another character of a separator. -/
theorem stops_of_ne_colon (hc : c ≠ ':') (d : Char) (rest : List Char) : Stops c (String.ofList (d :: rest)) := by
  simp [Stops, separators, List.suffix_cons_iff, hc]

theorem isLongestSeparator_append (hmem : suffix ∈ separators)
    (h : ∀ c, name.toList.getLast? = some c → Stops c suffix) : IsLongestSeparator (name ++ suffix) suffix := by
  refine ⟨hmem, ⟨name.toList, by rw [String.toList_append]⟩, ?_⟩
  intro other hother hstands
  rw [String.toList_append] at hstands
  rw [← String.length_toList, ← String.length_toList]
  apply Nat.le_of_not_lt
  intro hlt
  -- a longer one would go on with the last character of the name
  obtain ⟨more, hmore⟩ : suffix.toList <:+ other.toList :=
    List.suffix_of_suffix_length_le (List.suffix_append _ _) hstands (Nat.le_of_lt hlt)
  cases hlast : more.getLast? with
  | none =>
    rw [List.getLast?_eq_none_iff.1 hlast, List.nil_append] at hmore
    rw [hmore] at hlt
    exact Nat.lt_irrefl _ hlt
  | some c =>
    obtain ⟨init, rfl⟩ := List.getLast?_eq_some_iff.1 hlast
    rw [← hmore, List.suffix_append_self_iff] at hstands
    have hname : [c] <:+ name.toList := (List.suffix_append init [c]).trans hstands
    have hlonger : c :: suffix.toList <:+ other.toList := ⟨init, by rw [← hmore, List.append_assoc]; rfl⟩
    exact h c (List.singleton_suffix_iff_getLast?_eq_some.1 hname) other hother hlonger

theorem bareName_mark (token : String) : ∃ init mark, token.toList = init ++ mark ∧
    bareName token = String.ofList (dropLastIf ':' init) ∧
    ((∃ m, (m = ',' ∨ m = ';') ∧ mark = [m]) ∨ mark = [] ∧ ∀ c, init.getLast? = some c → ¬(c = ',' ∨ c = ';')) := by
  by_cases hlast : token.toList.getLast? = some ',' ∨ token.toList.getLast? = some ';'
  · obtain ⟨m, hm, hlast⟩ : ∃ m, (m = ',' ∨ m = ';') ∧ token.toList.getLast? = some m := by
      simpa [or_and_right, exists_or] using hlast
    obtain ⟨init, hinit⟩ := List.getLast?_eq_some_iff.1 hlast
    have hbare : bareName token = String.ofList (dropLastIf ':' init) := by simp [bareName, hinit, hm]
    exact ⟨init, [m], hinit, hbare, .inl ⟨m, hm, rfl⟩⟩
  · have hbare : bareName token = String.ofList (dropLastIf ':' token.toList) := by
      simp only [bareName, if_neg hlast]
    refine ⟨token.toList, [], (List.append_nil _).symm, hbare, .inr ⟨rfl, ?_⟩⟩
    intro c hc
    rwa [hc, Option.some.injEq, Option.some.injEq] at hlast

theorem bareName_split (token : String) : ∃ suffix ∈ separators, token = bareName token ++ suffix ∧
    ∀ c, (bareName token).toList.getLast? = some c → Stops c suffix := by
  obtain ⟨init, mark, htoken, hbare, hmark⟩ := bareName_mark token
  have hmem : String.ofList (':' :: mark) ∈ separators ∧ String.ofList mark ∈ separators := by
    rcases hmark with ⟨m, rfl | rfl, rfl⟩ | ⟨rfl, -⟩ <;> decide
  rw [hbare, String.toList_ofList]
  rcases dropLastIf_cases ':' init with hcolon | ⟨hcolon, hinit⟩
  · refine ⟨String.ofList (':' :: mark), hmem.1, ?_, fun c _ ↦ stops_colon c mark⟩
    apply String.toList_inj.1
    rw [htoken, String.toList_append, String.toList_ofList, String.toList_ofList, List.append_cons, ← hcolon]
  · rw [hinit]
    refine ⟨String.ofList mark, hmem.2, ?_, ?_⟩
    · apply String.toList_inj.1
      rw [htoken, String.toList_append, String.toList_ofList, String.toList_ofList]
    · intro c hc
      have hne : c ≠ ':' := by
        rintro rfl
        exact hcolon hc
      rcases hmark with ⟨m, -, rfl⟩ | ⟨rfl, hend⟩
      · exact stops_of_ne_colon hne m []
      · have hc := not_or.1 (hend c hc)
        exact stops_of_not_mem (by simp [hne, hc])

theorem exists_isLongestSeparator (token : String) :
    ∃ suffix, token = bareName token ++ suffix ∧ IsLongestSeparator token suffix := by
  obtain ⟨suffix, hmem, htoken, hstops⟩ := bareName_split token
  have hlongest := isLongestSeparator_append hmem hstops
  rw [← htoken] at hlongest
  exact ⟨suffix, htoken, hlongest⟩

theorem bareName_of_isLongestSeparator (h : IsLongestSeparator (name ++ suffix) suffix) :
    bareName (name ++ suffix) = name := by
  obtain ⟨other, hname, hother⟩ := exists_isLongestSeparator (name ++ suffix)
  rw [← h.unique hother] at hname
  exact (String.append_left_inj suffix).1 hname.symm

theorem bareName_eq_empty_iff : bareName token = "" ↔ token ∈ separators := by
  constructor
  · intro h
    obtain ⟨suffix, hmem, htoken, -⟩ := bareName_split token
    rw [h, String.empty_append] at htoken
    rwa [htoken]
  · intro h
    have hlongest : IsLongestSeparator ("" ++ token) token := isLongestSeparator_append h (by simp)
    have hbare := bareName_of_isLongestSeparator hlongest
    rwa [String.empty_append] at hbare

end Separators

theorem Field.ofTokens_cases (ts : List String) (line : SourceLine) :
    ts.length < 4 ∧ ofTokens ts line = .error (.malformed line (.shortField ts.length)) ∨
    ∃ ordinal marker typeName token more, ts = ordinal :: marker :: typeName :: token :: more ∧
      (token ∈ separators ∧ ofTokens ts line = .error (.malformed line .unnamedField) ∨
        token ∉ separators ∧ ofTokens ts line = .ok ⟨ordinal, marker = "required", typeName, bareName token⟩) := by
  rcases ts with _ | ⟨ordinal, _ | ⟨marker, _ | ⟨typeName, _ | ⟨token, more⟩⟩⟩⟩
  iterate 4 exact .inl ⟨by simp, rfl⟩
  refine .inr ⟨ordinal, marker, typeName, token, more, rfl, ?_⟩
  rw [ofTokens]
  by_cases hname : bareName token = ""
  · rw [if_pos hname]
    exact .inl ⟨bareName_eq_empty_iff.1 hname, rfl⟩
  · rw [if_neg hname]
    exact .inr ⟨mt bareName_eq_empty_iff.2 hname, rfl⟩

namespace Text

variable {s word before behind : String}

theorem exists_mem_of_inRuns {runs : List Run} {n : Nat} (h : inRuns runs n) : ∃ r ∈ runs, r.mem n := by
  induction runs with
  | nil => cases h
  | cons r rs ih =>
    rw [inRuns] at h
    split at h
    · cases h
    · rcases (Bool.or_eq_true _ _).mp h with hr | hrs
      · exact ⟨r, by simp, hr⟩
      · obtain ⟨q, hq, hn⟩ := ih hrs
        exact ⟨q, .tail _ hq, hn⟩

theorem isBlank_of_isDigit {c : Char} (h : isDigit c) : isBlank c = false := by
  have hapart : (digitRuns.all fun r ↦ r.apartFrom blankRuns) = true := by decide +kernel
  obtain ⟨r, hr, hc⟩ := exists_mem_of_inRuns h
  exact Run.inRuns_of_apartFrom (List.all_eq_true.1 hapart r hr) hc

def trimEnd (s : String) : String := String.ofList (dropTail isBlank s.toList)

theorem exists_trimEnd_append (s : String) : ∃ tail, s = trimEnd s ++ tail ∧ ∀ c ∈ tail.toList, isBlank c := by
  obtain ⟨tail, hs, htail⟩ := exists_dropTail_append isBlank s.toList
  refine ⟨String.ofList tail, ?_, by simpa using htail⟩
  apply String.toList_inj.1
  rw [trimEnd, String.toList_append, String.toList_ofList, String.toList_ofList]
  exact hs

theorem trimEnd_append (hs : ∀ c, s.toList.getLast? = some c → isBlank c = false) (behind : String) :
    trimEnd (s ++ behind) = s ++ trimEnd behind := by
  apply String.toList_inj.1
  rw [trimEnd, trimEnd, String.toList_append, String.toList_append, String.toList_ofList, String.toList_ofList,
    dropTail_append hs]

theorem trim_around (hbefore : ∀ c ∈ before.toList, isBlank c) (hs : Tight isBlank s.toList) (hne : s ≠ "")
    (behind : String) : trim (before ++ s ++ behind) = s ++ trimEnd behind := by
  obtain ⟨c, cs, hcs⟩ := List.exists_cons_of_ne_nil (mt String.toList_eq_nil_iff.1 hne)
  have hhead : isBlank c = false := hs.1 c (by rw [hcs]; rfl)
  have hkeep : (before ++ s ++ behind).toList.dropWhile isBlank = (s ++ behind).toList := by
    rw [String.append_assoc, String.toList_append, List.dropWhile_append_of_pos hbefore, String.toList_append, hcs,
      List.cons_append, List.dropWhile_cons_of_neg (by simp [hhead])]
  rw [trim, dropEnds, hkeep]
  exact trimEnd_append hs.2 behind

/-- The text is no part of the token in front of it: it is white space, or it starts with a space. -/
def StandsApart (s : String) : Prop := (∀ c ∈ s.toList, isBlank c) ∨ " ".toList <+: s.toList

theorem StandsApart.beginsWith (h : StandsApart s) : BeginsWith "" (trimEnd s) := by
  rcases h with hblank | hspace
  · left
    rw [trimEnd, ← List.nil_append s.toList, dropTail_append_of_pos hblank]
    rfl
  by_cases hempty : trimEnd s = ""
  · exact .inl hempty
  · obtain ⟨tail, hs, -⟩ := exists_trimEnd_append s
    have htrimmed : (trimEnd s).toList <+: s.toList := ⟨tail.toList, by rw [← String.toList_append, ← hs]⟩
    have hpos : 0 < (trimEnd s).toList.length := List.length_pos_iff.2 (mt String.toList_eq_nil_iff.1 hempty)
    exact .inr (List.prefix_of_prefix_length_le hspace htrimmed hpos)

theorem beginsWith_trimEnd_iff (hword : ∀ c, word.toList.getLast? = some c → isBlank c = false) :
    BeginsWith word (trimEnd behind) ↔ ∃ rest, behind = word ++ rest ∧ StandsApart rest := by
  constructor
  · intro h
    obtain ⟨tail, hbehind, htail⟩ := exists_trimEnd_append behind
    rcases h with h | ⟨more, hmore⟩
    · rw [h] at hbehind
      exact ⟨tail, hbehind, .inl htail⟩
    · refine ⟨" " ++ String.ofList more ++ tail, ?_, .inr ⟨more ++ tail.toList, by simp⟩⟩
      apply String.toList_inj.1
      rw [hbehind, String.toList_append, ← hmore]
      simp
  · rintro ⟨rest, rfl, hrest⟩
    rw [trimEnd_append hword]
    rcases hrest.beginsWith with hempty | ⟨more, hmore⟩
    · rw [hempty, String.append_empty]
      exact .inl rfl
    · exact .inr ⟨more, by simp [← hmore]⟩

theorem exists_spaced_append (hs : ' ' ∉ s.toList) (behind : String) :
    ∃ first rest, spaced (s ++ behind) = (s ++ first) :: rest ∧ ' ' ∉ first.toList ∧ BeginsWith first behind := by
  rcases spaced_cases behind with ⟨hbehind, -⟩ | ⟨first, more, hfirst, rfl, -⟩
  · exact ⟨behind, [], spaced_of_not_mem (by simp [hs, hbehind]), hbehind, .inl rfl⟩
  · refine ⟨first, spaced more, ?_, hfirst, .inr ⟨more.toList, by simp⟩⟩
    rw [← String.append_assoc, ← String.append_assoc, spaced_append (by simp [hs, hfirst])]

end Text

/-- A field in the words that it is written with. None of them has a space in it, the ordinal starts with a digit, and
the name is not empty and ends neither in white space nor in a character of a separator. -/
structure FieldText where
  ordinal : String
  marker : String
  typeName : String
  name : String
  digit : ∃ c, ordinal.toList.head? = some c ∧ isDigit c
  space_not_mem : ∀ word ∈ [ordinal, marker, typeName, name], ' ' ∉ word.toList
  name_ne : name ≠ ""
  name_end : ∀ c, name.toList.getLast? = some c → isBlank c = false ∧ c ∉ [':', ',', ';']

namespace FieldText

def field (f : FieldText) : Field := ⟨f.ordinal, f.marker = "required", f.typeName, f.name⟩

def text (f : FieldText) : String := " ".intercalate [f.ordinal, f.marker, f.typeName, f.name]

variable (f : FieldText) {before first : String}

theorem tight_text : Tight isBlank f.text.toList := by
  refine ⟨?_, ?_⟩
  · intro c hc
    obtain ⟨d, hd, hdigit⟩ := f.digit
    obtain rfl : d = c := by simpa [text, hd] using hc
    exact isBlank_of_isDigit hdigit
  · intro c hc
    have hname : f.name.toList ≠ [] := mt String.toList_eq_nil_iff.1 f.name_ne
    have htext : f.text.toList =
        (f.ordinal ++ " " ++ f.marker ++ " " ++ f.typeName ++ " ").toList ++ f.name.toList := by
      simp [text]
    rw [htext, List.getLast?_append, Option.or_of_isSome (List.getLast?_isSome.2 hname)] at hc
    exact (f.name_end c hc).1

theorem tokens_text (hbefore : ∀ c ∈ before.toList, isBlank c) (behind : String) :
    tokens (before ++ f.text ++ behind) =
      f.ordinal :: f.marker :: f.typeName :: spaced (f.name ++ trimEnd behind) := by
  have hne : f.text ≠ "" := by simp [text]
  have htext : f.text ++ trimEnd behind =
      f.ordinal ++ " " ++ (f.marker ++ " " ++ (f.typeName ++ " " ++ (f.name ++ trimEnd behind))) := by
    apply String.toList_inj.1
    simp [text]
  rw [tokens_eq_spaced, trim_around hbefore f.tight_text hne, htext,
    spaced_append (f.space_not_mem f.ordinal (by simp)), spaced_append (f.space_not_mem f.marker (by simp)),
    spaced_append (f.space_not_mem f.typeName (by simp))]

theorem kind_text (hbefore : ∀ c ∈ before.toList, isBlank c) (behind : String) :
    LineKind.ofTokens (tokens (before ++ f.text ++ behind)) = .field := by
  rw [f.tokens_text hbefore]
  exact (LineKind.ofTokens_cons_eq_iff f.ordinal _).2.2.1.2 f.digit

theorem bareName_name_append_iff : bareName (f.name ++ first) = f.name ↔ first ∈ separators := by
  constructor
  · intro h
    obtain ⟨suffix, hmem, hsuffix, -⟩ := bareName_split (f.name ++ first)
    rw [h] at hsuffix
    rwa [(String.append_right_inj f.name).1 hsuffix]
  · intro h
    apply bareName_of_isLongestSeparator
    apply isLongestSeparator_append h
    intro c hc
    exact stops_of_not_mem (f.name_end c hc).2

theorem ofTokens_eq_field_iff (more : List String) (line : SourceLine) :
    Field.ofTokens (f.ordinal :: f.marker :: f.typeName :: (f.name ++ first) :: more) line = .ok f.field ↔
      first ∈ separators := by
  rw [← f.bareName_name_append_iff, Field.ofTokens]
  constructor
  · intro h
    split at h
    · cases h
    · exact congrArg Field.name (Except.ok.inj h)
  · intro h
    rw [h, if_neg f.name_ne, field]

theorem reads_back_iff (hbefore : ∀ c ∈ before.toList, isBlank c) (behind : String) (line : SourceLine) :
    Field.ofTokens (tokens (before ++ f.text ++ behind)) line = .ok f.field ↔
      ∃ suffix ∈ separators, ∃ rest, behind = suffix ++ rest ∧ StandsApart rest := by
  have hfree : ∀ suffix ∈ separators, Free isBlank suffix := by decide
  have hbegins : ∀ suffix ∈ separators,
      (BeginsWith suffix (trimEnd behind) ↔ ∃ rest, behind = suffix ++ rest ∧ StandsApart rest) := by
    intro suffix hmem
    apply beginsWith_trimEnd_iff
    intro c hc
    exact hfree suffix hmem c (List.mem_of_getLast? hc)
  obtain ⟨first, more, hspaced, hspace, hfirst⟩ :=
    exists_spaced_append (f.space_not_mem f.name (by simp)) (trimEnd behind)
  rw [f.tokens_text hbefore, hspaced, f.ofTokens_eq_field_iff]
  constructor
  · intro hmem
    exact ⟨first, hmem, (hbegins first hmem).1 hfirst⟩
  · rintro ⟨suffix, hmem, hrest⟩
    have hsuffix : ' ' ∉ suffix.toList := fun hc ↦ absurd (hfree suffix hmem ' ' hc) (by decide)
    rwa [hfirst.unique ((hbegins suffix hmem).2 hrest) hspace hsuffix]

end FieldText

/-- A field is malformed exactly if it has fewer than four tokens or the fourth one is nothing but a separator.
Otherwise the fourth token is its name and the longest separator that the token ends with. A field written with single
spaces, behind white space, is read back exactly if a separator stands behind it, and then white space or a space and
anything. -/
theorem Field.ofTokens_less_longest_separator (ts : List String) (line : SourceLine) :
    ((∃ cause, ofTokens ts line = .error (.malformed line cause)) ↔
      ts.length < 4 ∨ ∃ token ∈ separators, ts[3]? = some token) ∧
    (¬(ts.length < 4 ∨ ∃ token ∈ separators, ts[3]? = some token) →
      ∃ field suffix, ofTokens ts line = .ok field ∧ ts[3]? = some (field.name ++ suffix) ∧
        IsLongestSeparator (field.name ++ suffix) suffix ∧ field.name ≠ "" ∧ ts[0]? = some field.ordinal ∧
        ts[2]? = some field.typeName ∧ (field.required ↔ ts[1]? = some "required")) ∧
    (∀ (f : FieldText) (before behind : String), (∀ c ∈ before.toList, isBlank c) →
      LineKind.ofTokens (tokens (before ++ f.text ++ behind)) = .field ∧
      (ofTokens (tokens (before ++ f.text ++ behind)) line = .ok f.field ↔
        ∃ suffix ∈ separators, ∃ rest, behind = suffix ++ rest ∧ StandsApart rest)) := by
  have hwritten (f : FieldText) (before behind : String) (hbefore : ∀ c ∈ before.toList, isBlank c) :=
    And.intro (f.kind_text hbefore behind) (f.reads_back_iff hbefore behind line)
  rw [← and_assoc]
  refine ⟨?_, hwritten⟩
  rcases ofTokens_cases ts line with ⟨hshort, hread⟩ | ⟨ordinal, marker, typeName, token, more, rfl, htoken⟩
  · rw [hread]
    exact ⟨iff_of_true ⟨_, rfl⟩ (.inl hshort), fun h ↦ absurd (.inl hshort) h⟩
  have hlong : ¬(ordinal :: marker :: typeName :: token :: more).length < 4 := by simp
  have hfourth : (∃ t ∈ separators, (ordinal :: marker :: typeName :: token :: more)[3]? = some t) ↔
      token ∈ separators := by simp
  rw [or_iff_right hlong, hfourth]
  rcases htoken with ⟨hmem, hread⟩ | ⟨hmem, hread⟩
  · rw [hread]
    exact ⟨iff_of_true ⟨_, rfl⟩ hmem, fun h ↦ absurd hmem h⟩
  · rw [hread]
    obtain ⟨suffix, hsplit, hlongest⟩ := exists_isLongestSeparator token
    refine ⟨iff_of_false (by simp) hmem, fun _ ↦ ⟨_, suffix, rfl, ?_, ?_, ?_, rfl, rfl, ?_⟩⟩
    · exact congrArg some hsplit
    · rwa [← hsplit]
    · exact mt bareName_eq_empty_iff.1 hmem
    · simp

theorem Field.ofTokens_less_stacked_separators :
    ofTokens ["1:", "required", "string", "a::,", "x"] ⟨1, ""⟩ = .ok ⟨"1:", true, "string", "a:"⟩ ∧
      ofTokens (tokens "\t²:  map<i32,i64> ,;a:; \t# x:, ") ⟨1, ""⟩ = .ok ⟨"²:", false, "map<i32,i64>", ",;a"⟩ := by
  obtain ⟨-, hread, hback⟩ := ofTokens_less_longest_separator ["1:", "required", "string", "a::,", "x"] ⟨1, ""⟩
  refine ⟨?_, ?_⟩
  · obtain ⟨⟨ordinal, required, typeName, name⟩, suffix, hfield, htoken, hlongest, -, hordinal, htype, hrequired⟩ :=
      hread (by decide)
    have hsplit : "a:" ++ ":," = name ++ suffix := Option.some.inj htoken
    have hsuffix : IsLongestSeparator ("a:" ++ ":,") ":," :=
      isLongestSeparator_append (by decide) fun c _ ↦ stops_colon c [',']
    rw [hsplit] at hsuffix
    obtain rfl := hsuffix.unique hlongest
    obtain rfl := (String.append_left_inj _).1 hsplit
    obtain rfl := Option.some.inj hordinal
    obtain rfl := Option.some.inj htype
    obtain rfl : required = true := hrequired.2 rfl
    exact hfield
  · have hdigit : ∃ c, "²:".toList.head? = some c ∧ isDigit c := ⟨'²', rfl, by decide⟩
    have hend : ∀ c, ",;a".toList.getLast? = some c → isBlank c = false ∧ c ∉ [':', ',', ';'] := by
      intro c hc
      obtain rfl := Option.some.inj hc
      decide
    have hbefore : ∀ c ∈ "\t".toList, isBlank c := by
      intro c hc
      obtain rfl := List.mem_singleton.1 hc
      decide
    exact (hback ⟨"²:", "", "map<i32,i64>", ",;a", hdigit, by decide, by decide, hend⟩ "\t" ":; \t# x:, " hbefore).2.2
      ⟨":;", by decide, " \t# x:, ", rfl, .inr ⟨_, rfl⟩⟩

end SchemaDdl
