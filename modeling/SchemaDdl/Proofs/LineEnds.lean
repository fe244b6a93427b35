import SchemaDdl.Proofs.RoundTrip
import SchemaDdl.Proofs.Uppercase

namespace SchemaDdl.Text

variable {p : Char → Bool} {s w : List Char} {sep c : Char}

theorem Free.of_subset {t u : String} (h : Free p t) (hs : u.toList ⊆ t.toList) : Free p u := fun c hc ↦ h c (hs hc)

theorem dropTail_subset : dropTail p s ⊆ s := by
  intro c hc
  unfold dropTail at hc
  rw [List.mem_reverse] at hc
  exact List.mem_reverse.1 ((List.dropWhile_suffix p).subset hc)

theorem dropEnds_subset : dropEnds p s ⊆ s :=
  List.Subset.trans dropTail_subset (List.dropWhile_suffix p).subset

theorem dropLastIf_subset : dropLastIf c s ⊆ s := by
  unfold dropLastIf
  split
  · exact List.dropLast_subset s
  · exact List.Subset.refl s

theorem subset_of_mem_pieces (h : w ∈ pieces sep s) : w ⊆ s := by
  induction s generalizing w with
  | nil =>
    rw [pieces, List.mem_singleton] at h
    simp [h]
  | cons d ds ih =>
    rw [pieces] at h
    split at h
    · obtain rfl | h := List.mem_cons.1 h
      · exact List.nil_subset _
      · exact List.subset_cons_of_subset d (ih h)
    · split at h
      next hd =>
        rw [List.mem_singleton] at h
        simp [h]
      next v vs hd =>
        obtain rfl | h := List.mem_cons.1 h
        · exact List.cons_subset_cons d (ih (by simp [hd]))
        · exact List.subset_cons_of_subset d (ih (by simp [hd, h]))

theorem not_end_of_mem_linesBy (h : w ∈ linesBy p s) : ∀ c ∈ w, p c = false := by
  induction s generalizing w with
  | nil => simp [linesBy] at h
  | cons d ds ih =>
    cases hd : p d with
    | true =>
      rw [linesBy_cons_of_end hd] at h
      obtain rfl | h := List.mem_cons.1 h
      · simp
      · exact ih h
    | false =>
      rw [linesBy_cons_of_not_end hd] at h
      obtain rfl | h := List.mem_cons.1 h
      · cases hl : linesBy p ds with
        | nil => simpa using hd
        | cons l ls =>
          have hl' : l ∈ linesBy p ds := by simp [hl]
          simpa [hd] using ih hl'
      · exact ih (List.mem_of_mem_tail h)

theorem linesBy_flatMap {e : Char} (he : p e = true) {lines : List (List Char)}
    (h : ∀ l ∈ lines, ∀ c ∈ l, p c = false) : linesBy p (lines.flatMap (· ++ [e])) = lines := by
  induction lines with
  | nil => rfl
  | cons l ls ih =>
    rw [List.flatMap_cons, List.append_assoc, List.singleton_append, linesBy_append_cons (h l (by simp)) he,
      ih (fun k hk ↦ h k (.tail _ hk))]

theorem free_splitLines (content : String) : ∀ l ∈ splitLines content, Free isLineEnd l := by
  intro l hl
  obtain ⟨w, hw, rfl⟩ := List.mem_map.1 hl
  intro c hc
  rw [String.toList_ofList] at hc
  exact not_end_of_mem_linesBy hw c hc

theorem isLineEnd_iff_toNat : isLineEnd c ↔
    10 ≤ c.toNat ∧ c.toNat ≤ 13 ∨ 28 ≤ c.toNat ∧ c.toNat ≤ 30 ∨ c.toNat = 0x85 ∨ c.toNat = 0x2028 ∨ c.toNat = 0x2029 := by
  simp [isLineEnd, inRuns, Run.mem]
  omega

theorem isLineEnd_upperChar (h : isLineEnd c = false) : ∀ d ∈ upperChar c, isLineEnd d = false := by
  have hruns : ∀ p ∈ imageRuns, 30 < p.first ∧ (p.last < 0x85 ∨ 0x85 < p.first) ∧
      (p.last < 0x2028 ∨ 0x2029 < p.first) := by decide +kernel
  intro d hd
  obtain ⟨rfl, -⟩ | ⟨p, hp, n, hn, rfl⟩ := upperChar_cases hd
  · exact h
  · have hp := hruns p hp
    obtain ⟨hfirst, hlast, -⟩ := Run.mem_iff.1 hn
    rw [← Bool.not_eq_true, isLineEnd_iff_toNat]
    obtain hcode | hcode := toNat_ofNat_eq_or n <;> omega

end SchemaDdl.Text

namespace SchemaDdl

variable {p : Char → Bool} {l : SourceLine}

theorem free_dropTerminator {raw : String} (h : Text.Free p raw) : Text.Free p (Text.dropTerminator raw) := by
  apply h.of_subset
  rw [Text.dropTerminator, String.toList_ofList]
  exact Text.dropTail_subset

theorem SourceLine.free_trimmed (h : Text.Free p l.text) : Text.Free p l.trimmed := by
  apply h.of_subset
  rw [SourceLine.trimmed, Text.trim, String.toList_ofList]
  exact Text.dropEnds_subset

theorem free_tokens {text : String} (h : Text.Free p text) : ∀ t ∈ tokens text, Text.Free p t := by
  intro t ht
  obtain ⟨w, hw, rfl⟩ := List.mem_map.1 ht
  apply h.of_subset
  rw [String.toList_ofList]
  exact List.Subset.trans (Text.subset_of_mem_pieces hw) Text.dropEnds_subset

theorem mem_of_blockName {ts : List String} {name : String} (h : blockName ts l = .ok name) : name ∈ ts := by
  unfold blockName at h
  split at h
  · cases h
  · split at h
    · split at h
      · cases h
      · cases h
        simp
    · cases h

theorem free_bareName {token : String} (h : Text.Free p token) : Text.Free p (bareName token) := by
  apply h.of_subset
  simp only [bareName, String.toList_ofList]
  refine List.Subset.trans Text.dropLastIf_subset ?_
  split
  · exact List.dropLast_subset _
  · exact List.Subset.refl _

theorem Field.name_ofTokens {ts : List String} {f : Field} (h : Field.ofTokens ts l = .ok f) :
    ∃ token ∈ ts, f.name = bareName token := by
  unfold Field.ofTokens at h
  split at h
  next ordinal marker typeName token more =>
    dsimp only at h
    split at h
    · cases h
    · cases h
      exact ⟨token, by simp, rfl⟩
  · cases h

theorem Draft.free_rowValue (h : Text.Free p l.text) : Text.Free p (Draft.rowValue l) := by
  apply (SourceLine.free_trimmed h).of_subset
  rw [Draft.rowValue, String.toList_ofList]
  exact Text.dropLastIf_subset

theorem ColumnName.free_ofField {name : String} (h : Text.Free Text.isLineEnd name) :
    Text.Free Text.isLineEnd (ofField name) := by
  have hmark : Text.isLineEnd '_' = false := by decide
  intro d hd
  rw [ofField, String.toList_ofList] at hd
  unfold Text.Free at h
  cases hs : name.toList with
  | nil => simp [hs, upperSnake] at hd
  | cons c cs =>
    rw [hs] at hd h
    rw [upperSnake] at hd
    split at hd
    · obtain ⟨e, he, hd⟩ := List.mem_flatMap.1 hd
      refine Text.isLineEnd_upperChar ?_ d hd
      obtain rfl | he := List.mem_cons.1 he
      · exact h e (by simp)
      · obtain rfl | he := mem_markWords he
        · exact hmark
        · exact h e (.tail _ he)
    · obtain ⟨e, he, hd⟩ := List.mem_flatMap.1 hd
      exact Text.isLineEnd_upperChar (h e he) d hd

theorem free_columnTypeText (typeName : String) : Text.Free Text.isLineEnd (columnTypeText typeName) := by
  unfold columnTypeText
  cases ColumnType.ofName? typeName with
  | none => decide
  | some t => cases t <;> decide

/-- No line of the fragment is broken by a character in it. -/
def Fragment.Unbroken (f : Fragment) : Prop := ∀ l ∈ f.lines, ∀ c ∈ l, Text.isLineEnd c = false

-- Goes through the characters of the lines, as the instance for `Text.Free` does.
instance (f : Fragment) : Decidable f.Unbroken :=
  @List.decidableBAll _ (fun l ↦ ∀ c ∈ l, Text.isLineEnd c = false)
    (List.decidableBAll fun c ↦ Text.isLineEnd c = false) f.lines

namespace Fragment

theorem unbroken_tableHeader {name : String} (h : Text.Free Text.isLineEnd name) : (tableHeader name).Unbroken := by
  intro w hw
  obtain rfl := List.mem_singleton.1 hw
  have hfront : Text.Free Text.isLineEnd "CREATE TABLE `" := by decide
  have hback : Text.Free Text.isLineEnd "` (" := by decide
  have hline := hfront.append (h.append hback)
  simpa only [Text.Free, String.toList_append] using hline

theorem unbroken_tableFooter : tableFooter.Unbroken := by decide

theorem unbroken_lookupColumns : lookupColumns.Unbroken := by decide +kernel

theorem unbroken_row {table value : String} (ht : Text.Free Text.isLineEnd table)
    (hv : Text.Free Text.isLineEnd value) : (row table value).Unbroken := by
  intro w hw
  obtain rfl := List.mem_singleton.1 hw
  have hfront : Text.Free Text.isLineEnd "INSERT INTO " := by decide
  have hmiddle : Text.Free Text.isLineEnd " (`VALUE`) VALUES ('" := by decide
  have hback : Text.Free Text.isLineEnd "');" := by decide
  have hline := hfront.append (ht.append (hmiddle.append (hv.append hback)))
  simpa only [Text.Free, String.toList_append] using hline

theorem unbroken_column {name type : String} (hn : Text.Free Text.isLineEnd name) (ht : Text.Free Text.isLineEnd type)
    (required last : Bool) : (column name type required last).Unbroken := by
  intro w hw
  obtain rfl := List.mem_singleton.1 hw
  have hfront : Text.Free Text.isLineEnd "\t`" := by decide
  have hquote : Text.Free Text.isLineEnd "`" := by decide
  have hspace : Text.Free Text.isLineEnd " " := by decide
  have hmarker : Text.Free Text.isLineEnd (if required then "NOT NULL" else "") := by
    cases required <;> decide
  have hcomma : Text.Free Text.isLineEnd (if last then "" else ",") := by
    cases last <;> decide
  have hline := (hfront.append (hn.append hquote)).append (hspace.append (ht.append (hspace.append
    (hmarker.append hcomma))))
  have hlist : " ".toList = [' '] := rfl
  simpa only [Text.Free, String.toList_append, hlist] using hline

end Fragment

variable {strict : Bool}

theorem free_blockName {header : SourceLine} {name : String} (h : Text.Free p header.text)
    (hn : blockName (tokens header.text) header = .ok name) : Text.Free p name :=
  free_tokens h name (mem_of_blockName hn)

theorem Member.mem_columns {members : List Member} {close : SourceLine} {f : Fragment}
    (h : f ∈ columns close members) : ∃ l field last, Member.field l field ∈ members ∧ f = field.column last := by
  induction members with
  | nil => cases h
  | cons m members ih =>
    rw [columns, List.mem_append] at h
    obtain h | h := h
    · cases m with
      | noise l => cases h
      | field l field => exact ⟨l, field, _, by simp, List.mem_singleton.1 h⟩
    · obtain ⟨l, field, last, hmem, rfl⟩ := ih h
      exact ⟨l, field, last, .tail _ hmem, rfl⟩

theorem Field.unbroken_column {field : Field} (h : Text.Free Text.isLineEnd l.text)
    (hf : Field.ofTokens (tokens l.text) l = .ok field) (last : Bool) : (field.column last).Unbroken := by
  obtain ⟨token, htoken, hname⟩ := Field.name_ofTokens hf
  refine Fragment.unbroken_column (ColumnName.free_ofField ?_) (free_columnTypeText _) _ _
  rw [hname]
  exact free_bareName (free_tokens h token htoken)

theorem Section.unbroken_fragments {s : Section} (hv : s.Valid strict)
    (hl : ∀ l ∈ s.lines, Text.Free Text.isLineEnd l.text) : ∀ f ∈ s.fragments, f.Unbroken := by
  intro f hf
  cases s with
  | noise l => cases hf
  | record header name members close =>
    obtain ⟨-, hn, hm, -⟩ := hv
    have hname := free_blockName (hl header (by simp [lines])) hn
    simp only [fragments, List.cons_append, List.mem_cons, List.mem_append, List.not_mem_nil, or_false] at hf
    obtain rfl | hf | rfl := hf
    · exact Fragment.unbroken_tableHeader hname
    · obtain ⟨l, field, last, hmem, rfl⟩ := Member.mem_columns hf
      have hline : l ∈ members.map Member.line := List.mem_map_of_mem hmem
      exact Field.unbroken_column (hl l (by simp [lines, hline])) (hm _ hmem).2.1 last
    · exact Fragment.unbroken_tableFooter
  | enumeration header name body close =>
    obtain ⟨-, hn, -, -⟩ := hv
    have hname := free_blockName (hl header (by simp [lines])) hn
    simp only [fragments, rowsOf, List.cons_append, List.nil_append, List.mem_cons, List.mem_map] at hf
    obtain rfl | rfl | rfl | ⟨l, hmem, rfl⟩ := hf
    · exact Fragment.unbroken_tableHeader hname
    · exact Fragment.unbroken_lookupColumns
    · exact Fragment.unbroken_tableFooter
    · have hbody : l ∈ body := (List.mem_filter.1 hmem).1
      exact Fragment.unbroken_row hname (Draft.free_rowValue (hl l (by simp [lines, hbody])))

theorem splitLines_scriptText {fs : List Fragment} (h : ∀ f ∈ fs, f.Unbroken) :
    Text.splitLines (scriptText fs.toArray) = (fs.flatMap Fragment.lines).map String.ofList := by
  have hlines : ∀ w ∈ fs.flatMap Fragment.lines, ∀ c ∈ w, Text.isLineEnd c = false := by
    intro w hw
    obtain ⟨f, hf, hw⟩ := List.mem_flatMap.1 hw
    exact h f hf w hw
  rw [Text.splitLines, toList_scriptText, Text.joinReturns_eq_self, Text.linesBy_flatMap (by decide) hlines]
  intro hr
  obtain ⟨w, hw, hr⟩ := List.mem_flatMap.1 hr
  obtain hr | hr := List.mem_append.1 hr
  · exact absurd (hlines w hw _ hr) (by decide)
  · exact absurd (List.mem_singleton.1 hr) (by decide)

end SchemaDdl
