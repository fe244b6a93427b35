import SchemaDdl.Proofs.Schema

namespace SchemaDdl

/-- What the lines below a header say about its table, and the declarations after it. -/
structure Reading where
  attributes : List Attribute
  isLookup : Bool
  values : List String
  declarations : List Declaration

namespace Reading

def start (ds : List Declaration) : Reading := ⟨[], false, [], ds⟩

/-- The text less as many characters as `front` and `back` have. -/
def between (front back : String) (s : List Char) : List Char :=
  (s.drop front.toList.length).take (s.length - front.toList.length - back.toList.length)

def typeName (text : String) : String :=
  (["string", "i16", "i32", "i64", "double", "bool"].find? (columnTypeText · = text)).getD ""

def header (line : List Char) (r : Reading) : Reading :=
  let name := String.ofList (between "CREATE TABLE `" "` (" line)
  start ((if r.isLookup then .enumeration name r.values else .record name r.attributes) :: r.declarations)

def column (line : List Char) (r : Reading) : Reading :=
  match Text.pieces ' ' line with
  | name :: type :: marker :: _ =>
    { r with attributes :=
        { required := marker = "NOT".toList
          typeName := typeName (String.ofList type)
          name := String.ofList (ColumnName.camel (between "\t`" "`" name)) } :: r.attributes }
  | _ => r

/-- The name of the table ends at the first space. -/
def row (line : List Char) (r : Reading) : Reading :=
  let rest := (line.drop "INSERT INTO ".toList.length).dropWhile (· ≠ ' ')
  { r with values := String.ofList (between " (`VALUE`) VALUES ('" "');" rest) :: r.values }

def line (l : List Char) (r : Reading) : Reading :=
  match l with
  | 'C' :: _ => r.header l
  | '\t' :: '`' :: _ => r.column l
  | '\t' :: 'I' :: _ => { r with isLookup := true }
  | 'I' :: _ => r.row l
  | _ => r

end Reading

/-- The declarations that a script was written for. -/
def decode (sql : String) : List Declaration :=
  ((Text.pieces '\n' sql.toList).foldr Reading.line (.start [])).declarations

def Fragment.lines : Fragment → List (List Char)
  | .tableHeader name => ["CREATE TABLE `".toList ++ (name.toList ++ "` (".toList)]
  | .tableFooter => [");".toList, []]
  | .column name type required last =>
    [("\t`".toList ++ (name.toList ++ "`".toList)) ++ ([' '] ++ (type.toList ++ ([' '] ++
      ((if required then "NOT NULL" else "").toList ++ (if last then "" else ",").toList))))]
  | .lookupColumns =>
    ["\tID INT NOT NULL AUTO_INCREMENT PRIMARY KEY,".toList, "\tVALUE VARCHAR(255) NOT NULL".toList]
  | .row table value =>
    ["INSERT INTO ".toList ++ (table.toList ++ (" (`VALUE`) VALUES ('".toList ++ (value.toList ++ "');".toList)))]

theorem Fragment.toList_text (f : Fragment) : f.text.toList = f.lines.flatMap (· ++ ['\n']) := by
  cases f with
  -- The texts are written out: the equations of `text` are slow to make.
  | tableHeader name =>
    change ("CREATE TABLE `" ++ name ++ "` (\n").toList = _
    simp only [lines, String.toList_append, List.flatMap_singleton, List.append_assoc]
    rfl
  | tableFooter => decide
  | column name type required last =>
    change ("\t`" ++ name ++ "` " ++ type ++ " " ++ (if required then "NOT NULL" else "") ++
      (if last then "" else ",") ++ "\n").toList = _
    simp only [lines, String.toList_append, List.flatMap_singleton, List.append_assoc]
    rfl
  | lookupColumns => decide +kernel
  | row table value =>
    change ("INSERT INTO " ++ table ++ " (`VALUE`) VALUES ('" ++ value ++ "');\n").toList = _
    simp only [lines, String.toList_append, List.flatMap_singleton, List.append_assoc]
    rfl

namespace Reading

theorem between_append (front back : String) (s : List Char) :
    between front back (front.toList ++ (s ++ back.toList)) = s := by
  have hlen : (front.toList ++ (s ++ back.toList)).length - front.toList.length - back.toList.length = s.length := by
    simp only [List.length_append]
    omega
  rw [between, hlen, List.drop_left, List.take_left]

theorem typeName_columnTypeText {k : String} (h : (ColumnType.ofName? k).isSome) : typeName (columnTypeText k) = k := by
  unfold ColumnType.ofName? at h
  split at h
  case h_7 => cases h
  all_goals decide

theorem columnTypeText_chars {k : String} (h : (ColumnType.ofName? k).isSome) :
    ' ' ∉ (columnTypeText k).toList ∧ '\n' ∉ (columnTypeText k).toList := by
  unfold ColumnType.ofName? at h
  split at h
  case h_7 => cases h
  all_goals decide

theorem columnName_chars {name : String} (h : ColumnName.IsCamel name.toList) {c : Char} (hc : c.isAlphanum = false)
    (hu : c ≠ '_') : c ∉ (ColumnName.ofField name).toList := by
  intro hmem
  rw [ColumnName.ofField, String.toList_ofList] at hmem
  obtain hd | hd := ColumnName.mem_upperSnake h hmem
  · rw [hc] at hd
    cases hd
  · exact hu hd

variable {r : Reading}

theorem read_header (name : String) :
    (Fragment.tableHeader name).lines.foldr line r =
      start ((if r.isLookup then .enumeration name r.values else .record name r.attributes) :: r.declarations) := by
  have hline (s : List Char) : line ("CREATE TABLE `".toList ++ s) r = header ("CREATE TABLE `".toList ++ s) r := rfl
  rw [Fragment.lines, List.foldr_cons, List.foldr_nil, hline, header, between_append, String.ofList_toList]

theorem read_footer : Fragment.tableFooter.lines.foldr line r = r := rfl

theorem read_lookupColumns : Fragment.lookupColumns.lines.foldr line r = { r with isLookup := true } := rfl

theorem read_row {table : String} (h : IsWord table) (value : String) :
    (Fragment.row table value).lines.foldr line r = { r with values := value :: r.values } := by
  have hline (s : List Char) : line ("INSERT INTO ".toList ++ s) r = row ("INSERT INTO ".toList ++ s) r := rfl
  have hspace : ∀ c ∈ table.toList, decide (c ≠ ' ') = true := by
    intro c hc
    apply decide_eq_true
    rintro rfl
    exact h.space_not_mem hc
  have hrest (s : List Char) : (" (`VALUE`) VALUES ('".toList ++ s).dropWhile (fun c ↦ decide (c ≠ ' ')) =
      " (`VALUE`) VALUES ('".toList ++ s := rfl
  rw [Fragment.lines, List.foldr_cons, List.foldr_nil, hline, row, List.drop_left,
    List.dropWhile_append_of_pos hspace, hrest, between_append, String.ofList_toList]

theorem read_column {a : Attribute} (h : a.WellFormed) (last : Bool) :
    (Fragment.column (ColumnName.ofField a.name) (columnTypeText a.typeName) a.required last).lines.foldr line r =
      { r with attributes := a :: r.attributes } := by
  have hline (s : List Char) : line ("\t`".toList ++ s) r = column ("\t`".toList ++ s) r := rfl
  have hname : ' ' ∉ "\t`".toList ++ ((ColumnName.ofField a.name).toList ++ "`".toList) := by
    have hfront : ' ' ∉ "\t`".toList := by decide
    have hback : ' ' ∉ "`".toList := by decide
    simp only [List.mem_append, not_or]
    exact ⟨hfront, columnName_chars h.2 (by decide) (by decide), hback⟩
  have hcamel : ColumnName.camel (ColumnName.ofField a.name).toList = a.name.toList := by
    rw [ColumnName.ofField, String.toList_ofList, ColumnName.camel_upperSnake h.2]
  -- where `NOT NULL` is missing, the third piece is empty or a comma
  have hmarker : ∃ m ms, Text.pieces ' ' ((if a.required then "NOT NULL" else "").toList ++
      (if last then "" else ",").toList) = m :: ms ∧ decide (m = "NOT".toList) = a.required := by
    cases a.required with
    | true => cases last <;> exact ⟨_, _, rfl, by decide⟩
    | false => cases last <;> exact ⟨_, _, rfl, by decide⟩
  obtain ⟨m, ms, hm, hreq⟩ := hmarker
  rw [Fragment.lines, List.foldr_cons, List.foldr_nil, List.append_assoc, hline, ← List.append_assoc, column]
  rw [Text.pieces_append_singleton hname, Text.pieces_append_singleton (columnTypeText_chars h.1).1, hm]
  simp only [hreq, String.ofList_toList, typeName_columnTypeText h.1, between_append, hcamel]

theorem read_columns {as : List Attribute} (h : ∀ a ∈ as, a.WellFormed) :
    ((Attribute.columns as).flatMap Fragment.lines).foldr line r = { r with attributes := as ++ r.attributes } := by
  induction as with
  | nil => rfl
  | cons a as ih =>
    rw [Attribute.columns, List.flatMap_cons, List.foldr_append, ih (fun b hb ↦ h b (.tail _ hb)),
      read_column (h a (by simp))]
    rfl

theorem read_rows {table : String} (h : IsWord table) (vs : List String) :
    ((vs.map (.row table)).flatMap Fragment.lines).foldr line r = { r with values := vs ++ r.values } := by
  induction vs with
  | nil => rfl
  | cons v vs ih =>
    rw [List.map_cons, List.flatMap_cons, List.foldr_append, ih, read_row h]
    rfl

theorem read_declaration {d : Declaration} (h : d.WellFormed) (ds : List Declaration) :
    (d.fragments.flatMap Fragment.lines).foldr line (start ds) = start (d :: ds) := by
  cases d with
  | record name as =>
    have hcut : (Declaration.record name as).fragments =
        [.tableHeader name] ++ (Attribute.columns as ++ [.tableFooter]) := rfl
    rw [hcut, List.flatMap_append, List.flatMap_append, List.foldr_append, List.foldr_append, List.flatMap_singleton,
      List.flatMap_singleton, read_footer, read_columns h.2, read_header]
    simp [start]
  | enumeration name vs =>
    have hcut : (Declaration.enumeration name vs).fragments =
        [.tableHeader name] ++ ([.lookupColumns] ++ ([.tableFooter] ++ vs.map (.row name))) := rfl
    rw [hcut, List.flatMap_append, List.flatMap_append, List.flatMap_append, List.foldr_append, List.foldr_append,
      List.foldr_append, List.flatMap_singleton, List.flatMap_singleton, List.flatMap_singleton, read_rows h.1,
      read_footer, read_lookupColumns, read_header]
    simp [start]

theorem read_schema {ds : List Declaration} (h : ∀ d ∈ ds, d.WellFormed) :
    ((ds.flatMap Declaration.fragments).flatMap Fragment.lines).foldr line (start []) = start ds := by
  induction ds with
  | nil => rfl
  | cons d ds ih =>
    rw [List.flatMap_cons, List.flatMap_append, List.foldr_append, ih (fun e he ↦ h e (.tail _ he)),
      read_declaration (h d (by simp))]

end Reading

section NewLines

theorem newline_not_mem {s : String} (h : Text.Free Text.isLineEnd s) : '\n' ∉ s.toList := by
  intro hc
  exact absurd (h _ hc) (by decide)

theorem newline_not_mem_header {name : String} (h : IsWord name) : ∀ l ∈ (Fragment.tableHeader name).lines, '\n' ∉ l := by
  intro l hl
  obtain rfl := List.mem_singleton.1 hl
  simp only [List.mem_append, not_or]
  exact ⟨by decide, newline_not_mem h.free_isLineEnd, by decide⟩

theorem newline_not_mem_column {a : Attribute} (h : a.WellFormed) (last : Bool) :
    ∀ l ∈ (Fragment.column (ColumnName.ofField a.name) (columnTypeText a.typeName) a.required last).lines, '\n' ∉ l := by
  intro l hl
  obtain rfl := List.mem_singleton.1 hl
  have hmarker : '\n' ∉ (if a.required then "NOT NULL" else "").toList := by
    cases a.required <;> decide
  have hcomma : '\n' ∉ (if last then "" else ",").toList := by
    cases last <;> decide
  simp only [List.mem_append, not_or]
  exact ⟨⟨by decide, Reading.columnName_chars h.2 (by decide) (by decide), by decide⟩, by decide,
    (Reading.columnTypeText_chars h.1).2, by decide, hmarker, hcomma⟩

theorem newline_not_mem_row {table value : String} (ht : IsWord table) (hv : IsValue value) :
    ∀ l ∈ (Fragment.row table value).lines, '\n' ∉ l := by
  intro l hl
  obtain rfl := List.mem_singleton.1 hl
  simp only [List.mem_append, not_or]
  exact ⟨by decide, newline_not_mem ht.free_isLineEnd, by decide, newline_not_mem hv.2.2.1, by decide⟩

theorem newline_not_mem_columns {as : List Attribute} (h : ∀ a ∈ as, a.WellFormed) :
    ∀ f ∈ Attribute.columns as, ∀ l ∈ f.lines, '\n' ∉ l := by
  induction as with
  | nil => nofun
  | cons a as ih =>
    rintro f (_ | ⟨_, hf⟩)
    · exact newline_not_mem_column (h a (by simp)) as.isEmpty
    · exact ih (fun b hb ↦ h b (.tail _ hb)) f hf

theorem Declaration.WellFormed.newline_not_mem_fragments {d : Declaration} (h : d.WellFormed) :
    ∀ f ∈ d.fragments, ∀ l ∈ f.lines, '\n' ∉ l := by
  have hfooter : ∀ l ∈ Fragment.tableFooter.lines, '\n' ∉ l := by decide
  have hlookup : ∀ l ∈ Fragment.lookupColumns.lines, '\n' ∉ l := by decide
  intro f hf
  cases d with
  | record name as =>
    simp only [fragments, List.cons_append, List.mem_cons, List.mem_append, List.not_mem_nil, or_false] at hf
    obtain rfl | hf | rfl := hf
    · exact newline_not_mem_header h.1
    · exact newline_not_mem_columns h.2 f hf
    · exact hfooter
  | enumeration name vs =>
    simp only [fragments, List.cons_append, List.nil_append, List.mem_cons, List.mem_map] at hf
    obtain rfl | rfl | rfl | ⟨v, hv, rfl⟩ := hf
    · exact newline_not_mem_header h.1
    · exact hlookup
    · exact hfooter
    · exact newline_not_mem_row h.1 (h.2 v hv)

end NewLines

theorem toList_scriptText (fs : List Fragment) :
    (scriptText fs.toArray).toList = (fs.flatMap Fragment.lines).flatMap (· ++ ['\n']) := by
  rw [scriptText_eq_join]
  induction fs with
  | nil => rfl
  | cons f fs ih =>
    rw [List.flatMap_cons, List.flatMap_append, ← ih, ← Fragment.toList_text]
    simp

theorem decode_scriptText {ds : List Declaration} (h : ∀ d ∈ ds, d.WellFormed) :
    decode (scriptText (ds.flatMap Declaration.fragments).toArray) = ds := by
  have hlines : ∀ l ∈ (ds.flatMap Declaration.fragments).flatMap Fragment.lines, '\n' ∉ l := by
    intro l hl
    obtain ⟨f, hf, hl⟩ := List.mem_flatMap.1 hl
    obtain ⟨d, hd, hf⟩ := List.mem_flatMap.1 hf
    exact (h d hd).newline_not_mem_fragments f hf l hl
  have hlast : [[]].foldr Reading.line (.start []) = .start [] := rfl
  rw [decode, toList_scriptText, Text.pieces_flatMap hlines, List.foldr_append, hlast, Reading.read_schema h]
  rfl

namespace Script

variable {o : Options}

theorem decode_script {gap : Nat} {ds : List Declaration} (hw : ∀ d ∈ ds, d.WellFormed)
    (hs : ∀ l ∈ schemaLines gap ds, l.length ≤ o.maxLineLength) :
    decode (scriptText (ofText o (schemaText gap ds)).progress.draft.script) = ds := by
  obtain ⟨-, -, -, -, hscript⟩ := ofText_schemaText hw hs
  rw [hscript, decode_scriptText hw]

/-- The text of a well-formed schema is read without findings, and the schema is decoded from the script. So different
schemas have different scripts. -/
theorem ofText_schemaText_lossless (o : Options) (gap : Nat) (ds : List Declaration) (hw : ∀ d ∈ ds, d.WellFormed)
    (hs : ∀ l ∈ schemaLines gap ds, l.length ≤ o.maxLineLength) :
    (ofText o (schemaText gap ds)).stop? = none ∧
      (ofText o (schemaText gap ds)).progress.draft.findings = #[] ∧
      (ofText o (schemaText gap ds)).progress.draft.tables = (ds.filterMap Declaration.table?).toArray ∧
      (ofText o (schemaText gap ds)).progress.draft.lookups = (ds.filterMap Declaration.lookup?).toArray ∧
      decode (scriptText (ofText o (schemaText gap ds)).progress.draft.script) = ds ∧
      ∀ (gap' : Nat) (ds' : List Declaration), (∀ d ∈ ds', d.WellFormed) →
        (∀ l ∈ schemaLines gap' ds', l.length ≤ o.maxLineLength) →
        scriptText (ofText o (schemaText gap' ds')).progress.draft.script =
          scriptText (ofText o (schemaText gap ds)).progress.draft.script → ds' = ds := by
  obtain ⟨hstop, hfindings, htables, hlookups, -⟩ := ofText_schemaText hw hs
  refine ⟨hstop, hfindings, htables, hlookups, decode_script hw hs, ?_⟩
  intro gap' ds' hw' hs' hsame
  have hdecode := congrArg decode hsame
  rw [decode_script hw' hs', decode_script hw hs] at hdecode
  exact hdecode

/-- A schema whose names and values look like parts of a script. -/
def quotingSchema : List Declaration :=
  [.record "A`(" [⟨true, "i32", "userId2"⟩, ⟨false, "bool", "aB"⟩],
    .enumeration "CREATE" ["x');", "INSERT INTO A (`VALUE`) VALUES ('y", "1, 2"],
    .record "\x7d" []]

theorem quotingSchema_lossless :
    (∀ d ∈ quotingSchema, d.WellFormed) ∧
      (∀ l ∈ schemaLines 1 quotingSchema, l.length ≤ Options.standard.maxLineLength) ∧
      (ofText .standard (schemaText 1 quotingSchema)).progress.draft.tables = #["A`(", "\x7d"] ∧
      decode (scriptText (ofText .standard (schemaText 1 quotingSchema)).progress.draft.script) = quotingSchema := by
  have hw : ∀ d ∈ quotingSchema, d.WellFormed := by decide +kernel
  have hs : ∀ l ∈ schemaLines 1 quotingSchema, l.length ≤ Options.standard.maxLineLength := by decide +kernel
  obtain ⟨-, -, htables, -, hdecode, -⟩ := ofText_schemaText_lossless .standard 1 quotingSchema hw hs
  exact ⟨hw, hs, htables, hdecode⟩

end Script

end SchemaDdl
