import SchemaDdl.Proofs.Acceptance

namespace SchemaDdl

open Automaton

def Fragment.EndsInComma (f : Fragment) : Prop := ∃ s, f.text = s ++ ",\n"

/-- Commas stand between the columns of a table and not after them. -/
def CommasBetween (columns : List Fragment) : Prop :=
  (∀ c ∈ columns.dropLast, c.EndsInComma) ∧ ∀ c, columns.getLast? = some c → ¬c.EndsInComma

theorem Field.text_column (f : Field) (last : Bool) :
    (f.column last).text =
      "\t`" ++ ColumnName.ofField f.name ++ "` " ++ columnTypeText f.typeName ++ " " ++
        (if f.required then "NOT NULL" else "") ++ (if last then "" else ",") ++ "\n" := rfl

theorem Field.endsInComma_column (f : Field) (last : Bool) : (f.column last).EndsInComma ↔ last = false := by
  unfold Fragment.EndsInComma
  rw [Field.text_column]
  constructor
  · rintro ⟨s, hs⟩
    cases last with
    | false => rfl
    | true =>
      have h := congrArg (fun t : String ↦ t.toList.reverse) hs
      cases hr : f.required <;> simp [hr] at h
  · rintro rfl
    have hc : ",\n" = "," ++ "\n" := rfl
    exact ⟨_, by rw [hc, ← String.append_assoc, if_neg Bool.false_ne_true]⟩

namespace Member

variable {strict : Bool} {close : SourceLine} {m : Member} {members : List Member}

theorem column_endsInComma (hv : ∀ k ∈ members, k.Valid strict) (hne : members ≠ []) :
    ∀ c ∈ m.column (following close members), c.EndsInComma := by
  intro c hc
  cases m with
  | noise l => simp [column] at hc
  | field l f =>
    obtain rfl : c = f.column (isBrace (following close members)) := by simpa [column] using hc
    rw [Field.endsInComma_column, isBrace_following hv]
    simp [hne]

theorem ne_nil_of_columns_ne_nil (h : columns close members ≠ []) : members ≠ [] := by
  rintro rfl
  exact h rfl

theorem dropLast_columns_endsInComma (hv : ∀ k ∈ members, k.Valid strict) :
    ∀ c ∈ (columns close members).dropLast, c.EndsInComma := by
  induction members with
  | nil => simp [columns]
  | cons m members ih =>
    have hv' : ∀ k ∈ members, k.Valid strict := fun k hk ↦ hv k (.tail _ hk)
    intro c hc
    rw [columns] at hc
    by_cases h : columns close members = []
    · rw [h, List.append_nil] at hc
      cases m <;> simp [column] at hc
    · rw [List.dropLast_append_of_ne_nil h, List.mem_append] at hc
      obtain hc | hc := hc
      · exact column_endsInComma hv' (ne_nil_of_columns_ne_nil h) c hc
      · exact ih hv' c hc

theorem not_field_of_columns_eq_nil (h : columns close members = []) (l : SourceLine) (f : Field) :
    field l f ∉ members := by
  induction members with
  | nil => simp
  | cons m members ih =>
    rw [columns, List.append_eq_nil_iff] at h
    rintro (_ | ⟨_, hm⟩)
    · simp [column] at h
    · exact ih h.2 hm

theorem getLast?_columns_endsInComma (hv : ∀ k ∈ members, k.Valid strict) {c : Fragment}
    (hc : (columns close members).getLast? = some c) :
    ¬c.EndsInComma ↔ (∃ l f, members.getLast? = some (field l f)) ∧ isBrace close := by
  induction members with
  | nil => simp [columns] at hc
  | cons m members ih =>
    have hv' : ∀ k ∈ members, k.Valid strict := fun k hk ↦ hv k (.tail _ hk)
    rw [columns] at hc
    by_cases h : columns close members = []
    · -- `m` has the last column; only noise may follow it
      rw [h, List.append_nil] at hc
      cases m with
      | noise l => simp [column] at hc
      | field l f =>
        obtain rfl : f.column (isBrace (following close members)) = c := by simpa [column] using hc
        rw [Field.endsInComma_column, isBrace_following hv']
        cases members with
        | nil => simp
        | cons k ks =>
          have hno : ∀ l f, (k :: ks).getLast? ≠ some (field l f) :=
            fun l f hl ↦ not_field_of_columns_eq_nil h l f (List.mem_of_getLast? hl)
          simp [List.getLast?_cons_cons, hno]
    · have hne := ne_nil_of_columns_ne_nil h
      rw [List.getLast?_append, Option.or_of_isSome (List.getLast?_isSome.2 h)] at hc
      obtain ⟨k, ks, rfl⟩ := List.exists_cons_of_ne_nil hne
      rw [List.getLast?_cons_cons]
      exact ih hv' hc

theorem commasBetween_columns_iff (hv : ∀ k ∈ members, k.Valid strict) (hne : columns close members ≠ []) :
    CommasBetween (columns close members) ↔ (∃ l f, members.getLast? = some (field l f)) ∧ isBrace close := by
  obtain ⟨c, hc⟩ := Option.isSome_iff_exists.1 (List.getLast?_isSome.2 hne)
  rw [← getLast?_columns_endsInComma hv hc]
  constructor
  · exact fun h ↦ h.2 c hc
  · intro h
    refine ⟨dropLast_columns_endsInComma hv, fun c' hc' ↦ ?_⟩
    rw [hc] at hc'
    cases hc'
    exact h

end Member

namespace Script

/-- In the script of a document every column but the last of its table ends in a comma. The last one does not, so
that commas stand between the columns, exactly if its field is directly followed by a closing brace that stands alone
on its line. -/
theorem commasBetween_iff_brace_after_last_field (o : Options) (content : String)
    (h : (ofText o content).stop? = none) :
    ∃ doc, Decomposes o.strict (numberLines 1 (Text.splitLines content)) doc ∧
      (ofText o content).progress.draft.script.toList = doc.flatMap Section.fragments ∧
      ∀ header name members close, .record header name members close ∈ doc → Member.columns close members ≠ [] →
        (∀ c ∈ (Member.columns close members).dropLast, c.EndsInComma) ∧
        (CommasBetween (Member.columns close members) ↔
          (∃ l f, members.getLast? = some (.field l f)) ∧ close.trimmed = closeBrace) := by
  obtain ⟨hs, doc, hd⟩ := document_of_succeeds h
  refine ⟨doc, hd, ?_, ?_⟩
  · rw [ofText, ofLines_document hd hs]
    simp [extend, documentAnswer]
  · intro header name members close hmem hne
    have hv := (hd.valid _ hmem).2.2.1
    refine ⟨Member.dropLast_columns_endsInComma hv, ?_⟩
    rw [Member.commasBetween_columns_iff hv hne]
    simp [isBrace]

theorem commasBetween_two_fields :
    (ofText .standard "struct A \x7b\n  1: required i32 id:,\n\n  2: optional list tags:\n \x7d\n").stop? = none ∧
      ∃ doc : List Section, (ofText .standard
          "struct A \x7b\n  1: required i32 id:,\n\n  2: optional list tags:\n \x7d\n").progress.draft.script.toList =
            doc.flatMap Section.fragments ∧
        ∀ header name members close, .record header name members close ∈ doc → Member.columns close members ≠ [] →
          (CommasBetween (Member.columns close members) ↔
            (∃ l f, members.getLast? = some (.field l f)) ∧ close.trimmed = closeBrace) := by
  have h : (ofText .standard
      "struct A \x7b\n  1: required i32 id:,\n\n  2: optional list tags:\n \x7d\n").stop? = none := by
    rw [ofText, ofLines_eq_run]
    decide +kernel
  obtain ⟨doc, -, hscript, hcommas⟩ := commasBetween_iff_brace_after_last_field .standard _ h
  exact ⟨h, doc, hscript, fun header name members close hm hne ↦ (hcommas header name members close hm hne).2⟩

/-- A blank line after the last field leaves its column with a comma. -/
theorem comma_after_last_column :
    (ofText .standard "struct A \x7b\n  1: required i32 id:\n\n\x7d\n").stop? = none ∧
      scriptText (ofText .standard "struct A \x7b\n  1: required i32 id:\n\n\x7d\n").progress.draft.script =
        "CREATE TABLE `A` (\n\t`ID` INT NOT NULL,\n);\n\n" := by
  rw [ofText, ofLines_eq_run]
  decide +kernel

end Script

end SchemaDdl
