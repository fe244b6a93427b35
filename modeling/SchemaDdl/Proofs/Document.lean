import Mathlib.Data.List.Forall2
import SchemaDdl.Proofs.Automaton
import SchemaDdl.Proofs.Text

namespace SchemaDdl

def SourceLine.IsNoise (l : SourceLine) : Prop := l.trimmed = "" ∨ l.kind = .noise

theorem SourceLine.IsNoise.kind_eq {l : SourceLine} (h : l.IsNoise) : l.kind = .noise :=
  h.elim kind_of_trimmed_empty id

inductive Member where
  | noise (line : SourceLine)
  | field (line : SourceLine) (field : Field)
  deriving DecidableEq, Repr

inductive Section where
  | noise (line : SourceLine)
  | record (header : SourceLine) (name : String) (members : List Member) (close : SourceLine)
  | enumeration (header : SourceLine) (name : String) (body : List SourceLine) (close : SourceLine)
  deriving DecidableEq, Repr

namespace Member

def line : Member → SourceLine
  | noise l => l
  | field l _ => l

/-- A field reads as it says; if `strict` its type has a column type. -/
def Valid (strict : Bool) : Member → Prop
  | noise l => l.IsNoise
  | field l f =>
    l.kind = .field ∧ Field.ofTokens (tokens l.text) l = .ok f ∧ (strict → (ColumnType.ofName? f.typeName).isSome)

/-- The line after the header or a member: the next member or the end of the record. -/
def following (close : SourceLine) (members : List Member) : SourceLine := (members.map line).headD close

/-- A field has one column, which is the last one if the next line is a closing brace and nothing else. -/
def column (next : SourceLine) : Member → List Fragment
  | noise _ => []
  | field _ f => [f.column (Automaton.isBrace next)]

def columns (close : SourceLine) : List Member → List Fragment
  | [] => []
  | m :: members => m.column (following close members) ++ columns close members

def findings (block : String) : Member → List Finding
  | noise _ => []
  | field l f => if ColumnType.ofName? f.typeName = none then [⟨l.number, block, f.name, f.typeName⟩] else []

def events : Member → List Event
  | noise _ => []
  | field _ f => if ColumnType.ofName? f.typeName = none then [.newColumnType f.typeName] else []

end Member

/-- The rows of an enumeration: one for every line of its body that is not blank. -/
def rowsOf (name : String) (body : List SourceLine) : List Fragment :=
  (body.filter (·.trimmed ≠ "")).map fun l ↦ .row name (Draft.rowValue l)

theorem rowsOf_append (name : String) (body body' : List SourceLine) :
    rowsOf name (body ++ body') = rowsOf name body ++ rowsOf name body' := by
  simp [rowsOf]

namespace Section

def lines : Section → List SourceLine
  | noise l => [l]
  | record header _ members close => header :: members.map Member.line ++ [close]
  | enumeration header _ body close => header :: body ++ [close]

/-- A record ends at any line that starts with a brace, an enumeration only at a brace that stands alone. -/
def Valid (strict : Bool) : Section → Prop
  | noise l => l.IsNoise
  | record header name members close =>
    header.kind = .record ∧ blockName (tokens header.text) header = .ok name ∧
      (∀ m ∈ members, m.Valid strict) ∧ close.kind = .close
  | enumeration header name body close =>
    header.kind = .enumeration ∧ blockName (tokens header.text) header = .ok name ∧
      (∀ l ∈ body, l.trimmed ≠ closeBrace) ∧ close.trimmed = closeBrace

def fragments : Section → List Fragment
  | noise _ => []
  | record _ name members close => .tableHeader name :: Member.columns close members ++ [.tableFooter]
  | enumeration _ name body _ => [.tableHeader name, .lookupColumns, .tableFooter] ++ rowsOf name body

def text (s : Section) : String := String.join (s.fragments.map Fragment.text)

def tables : Section → List String
  | record _ name _ _ => [name]
  | _ => []

def lookups : Section → List String
  | enumeration _ name _ _ => [name]
  | _ => []

def findings : Section → List Finding
  | record _ name members _ => members.flatMap (Member.findings name)
  | _ => []

def events : Section → List Event
  | noise _ => []
  | record _ name members _ => .creatingTable name :: members.flatMap Member.events
  | enumeration _ name _ _ => [.creatingLookup name]

end Section

/-- The SQL type that stands for the name of a type. -/
def sqlType : String → String
  | "string" => "VARCHAR(255)"
  | "i16" => "SMALLINT"
  | "i32" => "INT"
  | "i64" => "BIGINT"
  | "double" => "DOUBLE"
  | "bool" => "BIT"
  | _ => "NULL_VALUE"

def Member.sql (next : SourceLine) : Member → String
  | noise _ => ""
  | field _ f =>
    "\t`" ++ ColumnName.ofField f.name ++ "` " ++ sqlType f.typeName ++ " " ++
      (if f.required then "NOT NULL" else "") ++ (if next.trimmed = "\x7d" then "" else ",") ++ "\n"

def Member.columnsSql (close : SourceLine) : List Member → String
  | [] => ""
  | m :: members => m.sql (following close members) ++ columnsSql close members

/-- The value of a line is its trimmed text less the comma at its end, or all of that text if it does not end in one. -/
def SourceLine.HasValue (l : SourceLine) (value : String) : Prop :=
  l.trimmed = value ++ "," ∨ l.trimmed = value ∧ value.toList.getLast? ≠ some ','

/-- The SQL of a section, word for word. -/
inductive Section.HasSql : Section → String → Prop
  | noise (l : SourceLine) : HasSql (.noise l) ""
  | record (header : SourceLine) (name : String) (members : List Member) (close : SourceLine) :
      HasSql (.record header name members close)
        ("CREATE TABLE `" ++ name ++ "` (\n" ++ Member.columnsSql close members ++ ");\n\n")
  | enumeration (header : SourceLine) (name : String) (body : List SourceLine) (close : SourceLine)
      {values : List String} : List.Forall₂ SourceLine.HasValue (body.filter (·.trimmed ≠ "")) values →
      HasSql (.enumeration header name body close)
        ("CREATE TABLE `" ++ name ++ "` (\n" ++
          "\tID INT NOT NULL AUTO_INCREMENT PRIMARY KEY,\n\tVALUE VARCHAR(255) NOT NULL\n" ++ ");\n\n" ++
          String.join (values.map fun v ↦ "INSERT INTO " ++ name ++ " (`VALUE`) VALUES ('" ++ v ++ "');\n"))

/-- The lines `ls`, cut into the sections of a document. -/
structure Decomposes (strict : Bool) (ls : List SourceLine) (doc : List Section) : Prop where
  lines_eq : doc.flatMap Section.lines = ls
  valid : ∀ s ∈ doc, s.Valid strict

theorem columnTypeText_eq_sqlType (typeName : String) : columnTypeText typeName = sqlType typeName := by
  fun_cases sqlType typeName
  case case7 => simp [columnTypeText, ColumnType.ofName?, noColumnType, *]
  all_goals rfl

theorem Field.text_column_eq (f : Field) (l next : SourceLine) :
    (f.column (Automaton.isBrace next)).text = (Member.field l f).sql next := by
  simp only [Field.column, Fragment.text, Member.sql, columnTypeText_eq_sqlType, Automaton.isBrace, decide_eq_true_eq]
  rfl

theorem Member.join_columns (close : SourceLine) (members : List Member) :
    String.join ((columns close members).map Fragment.text) = columnsSql close members := by
  induction members with
  | nil => rfl
  | cons m members ih =>
    rw [columns, List.map_append, String.join_append, ih, columnsSql]
    cases m with
    | noise l => rfl
    | field l f =>
      rw [column, List.map_singleton, String.join_cons, String.join_nil, String.append_empty, f.text_column_eq l]

namespace Draft

variable {value : String} {l : SourceLine}

theorem hasValue_rowValue (l : SourceLine) : l.HasValue (rowValue l) := by
  unfold SourceLine.HasValue rowValue
  rcases Text.dropLastIf_cases ',' l.trimmed.toList with hcomma | ⟨hcomma, hsame⟩
  · left
    apply String.toList_inj.1
    rw [String.toList_append, String.toList_ofList]
    exact hcomma
  · right
    rw [hsame, String.ofList_toList]
    exact ⟨rfl, hcomma⟩

theorem hasValue_iff : l.HasValue value ↔ rowValue l = value := by
  constructor
  · intro h
    rcases h with hvalue | ⟨hvalue, hcomma⟩
    · have hlist : l.trimmed.toList = value.toList ++ [','] := by
        rw [hvalue, String.toList_append]
        rfl
      rw [rowValue, Text.dropLastIf, hlist, if_pos List.getLast?_concat, List.dropLast_concat, String.ofList_toList]
    · rw [rowValue, Text.dropLastIf, hvalue, if_neg hcomma, String.ofList_toList]
  · rintro rfl
    exact hasValue_rowValue l

theorem forall₂_hasValue_iff {lines : List SourceLine} {values : List String} :
    List.Forall₂ SourceLine.HasValue lines values ↔ lines.map rowValue = values := by
  have hrel : SourceLine.HasValue = fun l value ↦ rowValue l = value := by
    funext l value
    exact propext hasValue_iff
  rw [hrel, ← List.forall₂_map_left_iff (R := Eq), List.forall₂_eq_eq_eq]

end Draft

theorem rowsOf_eq_map_row (name : String) (body : List SourceLine) :
    rowsOf name body = ((body.filter (·.trimmed ≠ "")).map Draft.rowValue).map (Fragment.row name) := by
  rw [rowsOf, List.map_map]
  rfl

theorem join_map_row (name : String) (values : List String) :
    String.join ((values.map (Fragment.row name)).map Fragment.text) =
      String.join (values.map fun v ↦ "INSERT INTO " ++ name ++ " (`VALUE`) VALUES ('" ++ v ++ "');\n") := by
  rw [List.map_map]
  rfl

theorem Section.hasSql_text (s : Section) : s.HasSql s.text := by
  cases s with
  | noise l => exact .noise l
  | record header name members close =>
    have htext : (Section.record header name members close).text =
        "CREATE TABLE `" ++ name ++ "` (\n" ++ Member.columnsSql close members ++ ");\n\n" := by
      simp only [text, fragments, List.map_append, List.map_cons, List.map_nil, List.cons_append, String.join_cons,
        String.join_append, String.join_nil, Member.join_columns, Fragment.text, String.append_empty,
        String.append_assoc]
    rw [htext]
    exact .record header name members close
  | enumeration header name body close =>
    have htext : (Section.enumeration header name body close).text =
        "CREATE TABLE `" ++ name ++ "` (\n" ++
          "\tID INT NOT NULL AUTO_INCREMENT PRIMARY KEY,\n\tVALUE VARCHAR(255) NOT NULL\n" ++ ");\n\n" ++
          String.join (((body.filter (·.trimmed ≠ "")).map Draft.rowValue).map
            fun v ↦ "INSERT INTO " ++ name ++ " (`VALUE`) VALUES ('" ++ v ++ "');\n") := by
      rw [text, fragments, rowsOf_eq_map_row, List.map_append, String.join_append, join_map_row]
      simp only [List.map_cons, List.map_nil, String.join_cons, String.join_nil, Fragment.text,
        String.append_empty, String.append_assoc]
    rw [htext]
    exact .enumeration header name body close (Draft.forall₂_hasValue_iff.2 rfl)

theorem append_cons_inj_of_first {α : Type} {P : α → Prop} {xs ys : List α} {x y : α} {r s : List α}
    (hxs : ∀ a ∈ xs, ¬P a) (hys : ∀ a ∈ ys, ¬P a) (hx : P x) (hy : P y) (h : xs ++ x :: r = ys ++ y :: s) :
    xs = ys ∧ x = y ∧ r = s := by
  induction xs generalizing ys with
  | nil =>
    cases ys with
    | nil => simpa using h
    | cons b ys =>
      obtain ⟨rfl, -⟩ := List.cons.inj h
      exact absurd hx (hys x (by simp))
  | cons a xs ih =>
    cases ys with
    | nil =>
      obtain ⟨rfl, -⟩ := List.cons.inj h
      exact absurd hy (hxs a (by simp))
    | cons b ys =>
      obtain ⟨rfl, ht⟩ := List.cons.inj h
      obtain ⟨rfl, hr⟩ := ih (fun c hc ↦ hxs c (.tail _ hc)) (fun c hc ↦ hys c (.tail _ hc)) ht
      exact ⟨rfl, hr⟩

variable {strict : Bool}

theorem Member.Valid.kind_ne_close {m : Member} (h : m.Valid strict) : m.line.kind ≠ .close := by
  cases m with
  | noise l => simp [line, SourceLine.IsNoise.kind_eq h]
  | field l f => simp [line, h.1]

-- A closing brace would have ended the record.
theorem Member.Valid.isBrace_line {m : Member} (h : m.Valid strict) : Automaton.isBrace m.line = false := by
  have hk := h.kind_ne_close
  simp only [Automaton.isBrace, decide_eq_false_iff_not]
  intro hb
  exact hk (SourceLine.kind_of_trimmed_brace hb)

theorem Member.isBrace_following {members : List Member} {close : SourceLine} (hv : ∀ k ∈ members, k.Valid strict) :
    Automaton.isBrace (following close members) = (members.isEmpty && Automaton.isBrace close) := by
  cases members with
  | nil => simp [following]
  | cons k ks =>
    have hk := (hv k (by simp)).isBrace_line
    simpa [following] using hk

theorem Member.eq_of_line_eq {m m' : Member} (h : m.Valid strict) (h' : m'.Valid strict) (he : m.line = m'.line) :
    m = m' := by
  cases m with
  | noise l =>
    cases m' with
    | noise l' => exact congrArg _ he
    | field l' f' =>
      have hk := SourceLine.IsNoise.kind_eq h
      obtain rfl : l = l' := he
      rw [h'.1] at hk
      cases hk
  | field l f =>
    obtain rfl : l = m'.line := he
    cases m' with
    | noise l' =>
      have hk := SourceLine.IsNoise.kind_eq h'
      rw [show l'.kind = .field from h.1] at hk
      cases hk
    | field l' f' =>
      have hf := h.2.1.symm.trans h'.2.1
      cases hf
      rfl

theorem Member.map_line_inj {ms ms' : List Member} (h : ∀ m ∈ ms, m.Valid strict) (h' : ∀ m ∈ ms', m.Valid strict)
    (he : ms.map line = ms'.map line) : ms = ms' := by
  induction ms generalizing ms' with
  | nil => simpa using he.symm
  | cons m ms ih =>
    cases ms' with
    | nil => simp at he
    | cons m' ms' =>
      simp only [List.map_cons, List.cons.injEq] at he
      rw [eq_of_line_eq (h m (by simp)) (h' m' (by simp)) he.1,
        ih (fun k hk ↦ h k (.tail _ hk)) (fun k hk ↦ h' k (.tail _ hk)) he.2]

namespace Section

def first : Section → SourceLine
  | noise l => l
  | record header _ _ _ => header
  | enumeration header _ _ _ => header

def rest : Section → List SourceLine
  | noise _ => []
  | record _ _ members close => members.map Member.line ++ [close]
  | enumeration _ _ body close => body ++ [close]

def kind : Section → LineKind
  | noise _ => .noise
  | record .. => .record
  | enumeration .. => .enumeration

theorem lines_eq_cons (s : Section) : s.lines = s.first :: s.rest := by cases s <;> rfl

theorem Valid.kind_first {s : Section} (h : s.Valid strict) : s.first.kind = s.kind := by
  cases s with
  | noise l => exact SourceLine.IsNoise.kind_eq h
  | record header name members close => exact h.1
  | enumeration header name body close => exact h.1

theorem eq_of_lines_append {s s' : Section} (h : s.Valid strict) (h' : s'.Valid strict) {r r' : List SourceLine}
    (he : s.lines ++ r = s'.lines ++ r') : s = s' ∧ r = r' := by
  rw [lines_eq_cons, lines_eq_cons, List.cons_append, List.cons_append] at he
  obtain ⟨hfirst, hrest⟩ := List.cons.inj he
  have hk : s.kind = s'.kind := by rw [← h.kind_first, ← h'.kind_first, hfirst]
  cases s with
  | noise l =>
    cases s' with
    | noise l' => exact ⟨congrArg noise hfirst, hrest⟩
    | record | enumeration => cases hk
  | record header name members close =>
    cases s' with
    | record header' name' members' close' =>
      obtain rfl : header = header' := hfirst
      obtain ⟨-, hn, hm, hc⟩ := h
      obtain ⟨-, hn', hm', hc'⟩ := h'
      rw [hn] at hn'
      cases hn'
      simp only [rest, List.append_assoc, List.singleton_append] at hrest
      have hne (ms : List Member) (hms : ∀ m ∈ ms, m.Valid strict) : ∀ l ∈ ms.map Member.line, ¬l.kind = .close := by
        intro l hl
        obtain ⟨m, hm, rfl⟩ := List.mem_map.1 hl
        exact (hms m hm).kind_ne_close
      obtain ⟨hmem, rfl, rfl⟩ := append_cons_inj_of_first (hne members hm) (hne members' hm') hc hc' hrest
      rw [Member.map_line_inj hm hm' hmem]
      exact ⟨rfl, rfl⟩
    | noise | enumeration => cases hk
  | enumeration header name body close =>
    cases s' with
    | enumeration header' name' body' close' =>
      obtain rfl : header = header' := hfirst
      obtain ⟨-, hn, hb, hc⟩ := h
      obtain ⟨-, hn', hb', hc'⟩ := h'
      rw [hn] at hn'
      cases hn'
      simp only [rest, List.append_assoc, List.singleton_append] at hrest
      obtain ⟨rfl, rfl, rfl⟩ := append_cons_inj_of_first hb hb' hc hc' hrest
      exact ⟨rfl, rfl⟩
    | noise | record => cases hk

end Section

theorem Decomposes.unique {ls : List SourceLine} {doc doc' : List Section} (h : Decomposes strict ls doc)
    (h' : Decomposes strict ls doc') : doc = doc' := by
  obtain ⟨rfl, hv⟩ := h
  obtain ⟨he, hv'⟩ := h'
  induction doc generalizing doc' with
  | nil =>
    cases doc' with
    | nil => rfl
    | cons s' doc' => simp [Section.lines_eq_cons] at he
  | cons s doc ih =>
    cases doc' with
    | nil => simp [Section.lines_eq_cons] at he
    | cons s' doc' =>
      rw [List.flatMap_cons, List.flatMap_cons] at he
      obtain ⟨rfl, hr⟩ := Section.eq_of_lines_append (hv' s' (by simp)) (hv s (by simp)) he
      rw [ih (fun t ht ↦ hv t (.tail _ ht)) hr (fun t ht ↦ hv' t (.tail _ ht))]

end SchemaDdl
