import SchemaDdl.Proofs.FileLines
import SchemaDdl.Proofs.FileTree
import SchemaDdl.SchemaFile.Conversion

namespace SchemaDdl

namespace Window

variable {w : Window} {f : Text.Utf8.Fault}

theorem broken?_read : w.read.2.broken? = w.broken? := by
  unfold read
  split
  · split <;> rfl
  · split <;> rfl

theorem broken?_next : w.next.2.broken? = w.broken? := by
  unfold next
  split
  · rfl
  · exact broken?_read

theorem broken?_peek : w.peek.2.broken? = w.broken? := by
  unfold peek
  split
  · rfl
  · have h := w.broken?_read
    split
    next hr =>
      rw [hr] at h
      exact h
    next => exact h

theorem broken?_of_read_done (h : w.read.1 = .done) : w.broken? = none := by
  unfold read at h
  split at h
  · split at h
    · assumption
    · cases h
  · split at h <;> cases h

theorem broken?_of_read_undecodable (h : w.read.1 = .stop (.undecodable f)) : w.broken? = some f := by
  unfold read at h
  split at h
  · split at h
    · cases h
    · cases h
      assumption
  · split at h <;> cases h

theorem broken?_of_next_done (h : w.next.1 = .done) : w.broken? = none := by
  unfold next at h
  split at h
  · cases h
  · exact broken?_of_read_done h

end Window

/-- Reading on from `w` to `w'` does not change how the document ends, and undecodable bytes are met only where it breaks
off. -/
structure Window.ReadsTo (w w' : Window) (stop? : Option Stop) : Prop where
  broken_eq : w'.broken? = w.broken?
  broken_of_stop : ∀ f, stop? = some (.undecodable f) → w.broken? = some f

namespace Window

variable {w w' w'' : Window} {stop? : Option Stop} {s : Stop}

theorem ReadsTo.refl (w : Window) : w.ReadsTo w none := ⟨rfl, nofun⟩

theorem ReadsTo.fault (h : w'.broken? = w.broken?) (f : Fault) : w.ReadsTo w' (some (.fault f)) := ⟨h, nofun⟩

theorem ReadsTo.after (h : w'.broken? = w.broken?) (h' : w'.ReadsTo w'' stop?) : w.ReadsTo w'' stop? :=
  ⟨h'.broken_eq.trans h, fun f hf ↦ h ▸ h'.broken_of_stop f hf⟩

theorem readsTo_next_stop (h : w.next.1 = .stop s) : w.ReadsTo w.next.2 (some s) := by
  refine ⟨broken?_next, fun f hf ↦ ?_⟩
  cases hf
  unfold next at h
  split at h
  · cases h
  · exact broken?_of_read_undecodable h

theorem readsTo_peek_stop (h : w.peek = (.stop s, w')) : w.ReadsTo w' (some s) := by
  have hpeek := w.broken?_peek
  rw [h] at hpeek
  refine ⟨hpeek, fun f hf ↦ ?_⟩
  cases hf
  unfold peek at h
  split at h
  · cases h
  · split at h
    · cases h
    · exact broken?_of_read_undecodable (congrArg Prod.fst h)

end Window

theorem Draft.readsTo_readRows (name : String) (header : SourceLine) (d : Draft) (count : Nat) (w : Window) :
    w.ReadsTo (readRows name header d count w).window
      (match (readRows name header d count w).result with
      | .ok _ => none
      | .error s => some s) := by
  fun_induction readRows name header d count w with
  | case1 d count w s h => exact Window.readsTo_next_stop h
  | case2 => exact .fault Window.broken?_next _
  | case3 => exact .after Window.broken?_next (.refl _)
  | case4 d count w l h _ _ _ ih => exact .after Window.broken?_next ih
  | case5 d count w l h _ _ _ ih => exact .after Window.broken?_next ih

theorem Draft.readsTo_writeRows (d : Draft) (name : String) (header : SourceLine) (w : Window) :
    w.ReadsTo (d.writeRows name header w).window
      (match (d.writeRows name header w).result with
      | .ok _ => none
      | .error s => some s) := by
  unfold writeRows
  split
  · exact readsTo_readRows ..
  · exact .fault rfl _

namespace Script

variable {p : Progress} {w : Window} {l : SourceLine} {strict : Bool}

theorem readsTo_settle (r : Except Fault Draft) : w.ReadsTo (Step.settle p w r).window (Step.settle p w r).stop? := by
  cases r with
  | ok d => exact .refl w
  | error f => exact .fault rfl f

theorem readsTo_line : w.ReadsTo (line strict l p w).window (line strict l p w).stop? := by
  unfold line
  split
  · exact .refl w
  split
  · unfold recordLine
    split
    · exact .fault rfl _
    · exact readsTo_settle _
  · exact readsTo_settle _
  · unfold enumerationLine
    split
    · exact .fault rfl _
    · dsimp only
      split
      · exact .fault rfl _
      · exact Draft.readsTo_writeRows ..
  · unfold fieldLine
    split
    · exact .fault rfl _
    · have hpeek := w.broken?_peek
      split
      next hp => exact Window.readsTo_peek_stop hp
      next hp =>
        rw [hp] at hpeek
        split
        · exact .fault hpeek _
        · exact ⟨hpeek, nofun⟩
  · exact .refl w

theorem broken?_of_run (strict : Bool) (p : Progress) (w : Window) :
    ((run strict p w).stop? = none → w.broken? = none) ∧
      ∀ f, (run strict p w).stop? = some (.undecodable f) → w.broken? = some f := by
  fun_induction run strict p w with
  | case1 p w s h =>
    refine ⟨nofun, fun f hf ↦ ?_⟩
    exact (Window.readsTo_next_stop h).broken_of_stop f hf
  | case2 p w h =>
    refine ⟨fun _ ↦ Window.broken?_of_next_done h, fun f hf ↦ ?_⟩
    dsimp only [openAtEnd?] at hf
    split at hf
    · cases hf
    · obtain ⟨header, -, hfault⟩ := Option.map_eq_some_iff.1 hf
      cases hfault
  | case3 p w l h _ s stop hstop =>
    refine ⟨nofun, fun f hf ↦ ?_⟩
    rw [← Window.broken?_next]
    exact readsTo_line.broken_of_stop f (hstop.trans hf)
  | case4 p w l h _ s hstop ih =>
    have hw : s.window.broken? = w.broken? := readsTo_line.broken_eq.trans Window.broken?_next
    rw [← hw]
    exact ih

theorem fault?_of_ofSupply (o : Options) (supply : Text.LineSupply) :
    ((ofSupply o supply).stop? = none → supply.fault? = none) ∧
      ∀ f, (ofSupply o supply).stop? = some (.undecodable f) → supply.fault? = some f :=
  broken?_of_run o.strict {} (.ofSupply supply (some o.maxLineLength))

/-- Terminators make no difference to a run. -/
theorem ofLines_map_dropTerminator (o : Options) (lines : List String) :
    ofLines o (lines.map Text.dropTerminator) = ofLines o lines := by
  have hlines : numberLines 1 (lines.map Text.dropTerminator) = numberLines 1 lines := by
    generalize (1 : Int) = n
    induction lines generalizing n with
    | nil => rfl
    | cons raw lines ih => rw [List.map_cons, numberLines, numberLines, ih, Text.dropTerminator_dropTerminator]
  simp only [ofLines, ofSupply, Window.ofSupply, hlines]

theorem ofSupply_ofBytes_encode (o : Options) (content : String) :
    ofSupply o (.ofBytes (Text.Utf8.encode content.toList)) = ofLines o (Text.fileLines content) := by
  have hreturn : '\r' ∉ Text.joinReturns content.toList := fun h ↦ (Text.mem_joinReturns h).1 rfl
  rw [Text.ofBytes_encode, Text.fileLines, ← Text.dropTerminator_allLines hreturn, ofLines_map_dropTerminator]
  rfl

end Script

namespace Conversion

variable {depth : Nat} {s : Settings} {o : Options} {t : FileTree} {r : Request} {b : List UInt8}

theorem run_of_file (hcheck : s.check = .ok o) (hstat : t.stat r.schema.text = .ok (.file b))
    (hsize : b.length ≤ o.maxFileSize) :
    run depth s t r = writeScript depth o t r (.ofBytes b) #[.starting r.schema.text] := by
  have hbound : SchemaFile.boundedSize t r.schema o.maxFileSize = .ok b.length := by
    simp only [SchemaFile.boundedSize, SchemaFile.size, hstat, bind, Except.bind]
    rw [if_neg (by omega)]
    rfl
  have hlines : SchemaFile.lines t r.schema = .ok (.ofBytes b) := by
    simp only [SchemaFile.lines, FileTree.readFile, hstat, bind, Except.bind]
  simp only [run, hcheck, withOptions, hbound, hlines, bind, Except.bind]

/-- The result that a run over the lines of a schema has for its conversion. -/
def resultOf (r : Request) (path : Path) (outcome : Outcome) : Except ConversionFault (Path × Draft) :=
  match outcome.stop? with
  | some (.fault f) => .error (.schema r.schema f)
  | some (.undecodable f) => .error (.undecodable r.schema f)
  | none => .ok (path, outcome.progress.draft)

theorem resultOf_eq_ok_iff {path : Path} {outcome : Outcome} :
    (∃ x, resultOf r path outcome = .ok x) ↔ outcome.stop? = none := by
  unfold resultOf
  split <;> simp_all

theorem writeScript_of_create (hcreate : (SchemaFile.create depth t (r.output o.extension)).2 = .ok ())
    (supply : Text.LineSupply) (events : Array Event) :
    (writeScript depth o t r supply events).tree =
        SchemaFile.fill (SchemaFile.create depth t (r.output o.extension)).1 (r.output o.extension)
          (scriptText (Script.ofSupply o supply).progress.draft.script) ∧
      (writeScript depth o t r supply events).result = resultOf r (r.output o.extension) (Script.ofSupply o supply) := by
  unfold writeScript
  generalize Script.ofSupply o supply = outcome
  dsimp only
  generalize SchemaFile.create depth t (r.output o.extension) = made at hcreate ⊢
  obtain ⟨t', _⟩ := made
  cases hcreate
  obtain ⟨progress, _ | ⟨_ | _⟩⟩ := outcome
  all_goals simp only [resultOf, and_self]

/-- Converting a file and running over the text it holds come to the same. -/
theorem run_agrees_with_text (hcheck : s.check = .ok o) (hstat : t.stat r.schema.text = .ok (.file b))
    (hsize : b.length ≤ o.maxFileSize) (hcreate : (SchemaFile.create depth t (r.output o.extension)).2 = .ok ()) :
    ((∃ x, (run depth s t r).result = .ok x) ↔
      ∃ content : String, b = Text.Utf8.encode content.toList ∧
        (Script.ofLines o (Text.fileLines content)).stop? = none) ∧
    ∀ content : String, b = Text.Utf8.encode content.toList → Text.Free (· ∈ Text.memoryLineEnds) content →
      (run depth s t r).tree.readFile (r.output o.extension).text =
          .ok (Text.Utf8.encode (scriptText (Script.ofText o content).progress.draft.script).toList) ∧
        ((Script.ofText o content).stop? = none →
          (run depth s t r).result = .ok (r.output o.extension, (Script.ofText o content).progress.draft)) ∧
        ∀ stop, (Script.ofText o content).stop? = some stop →
          ∃ f, stop = .fault f ∧ (run depth s t r).result = .error (.schema r.schema f) ∧
            (ConversionFault.schema r.schema f).message = r.schema.text ++ ": " ++ f.message := by
  obtain ⟨htree, hresult⟩ := writeScript_of_create hcreate (.ofBytes b) #[.starting r.schema.text]
  rw [← run_of_file hcheck hstat hsize] at htree hresult
  refine ⟨?_, ?_⟩
  · rw [hresult, resultOf_eq_ok_iff]
    constructor
    · intro hstop
      obtain ⟨content, rfl⟩ := Text.exists_encode_of_fault?_eq_none ((Script.fault?_of_ofSupply o (.ofBytes b)).1 hstop)
      rw [Script.ofSupply_ofBytes_encode] at hstop
      exact ⟨content, rfl, hstop⟩
    · rintro ⟨content, rfl, hstop⟩
      rw [Script.ofSupply_ofBytes_encode]
      exact hstop
  · rintro content rfl hends
    rw [Script.ofSupply_ofBytes_encode, Text.fileLines_eq_splitLines hends, ← Script.ofText] at htree hresult
    rw [htree, hresult, SchemaFile.readFile_fill hcreate]
    refine ⟨rfl, ?_, ?_⟩
    · intro hstop
      simp only [resultOf, hstop]
    · intro stop hstop
      cases stop with
      | fault f => exact ⟨f, rfl, by simp only [resultOf, hstop], rfl⟩
      | undecodable f =>
        -- lines given as such have no fault behind them
        have hfault := (Script.fault?_of_ofSupply o ⟨Text.splitLines content, none⟩).2 f hstop
        cases hfault

/-- A schema file that has the name of its own script. Its lines end in three ways, and one of its characters has two
bytes. -/
def selfNamedText : String := "struct A \x7b\r\n 1: required i32 \u00e9;\r\x7d\n\n"

def selfNamedTree : FileTree := ⟨[(["a.sql"], .file (Text.Utf8.encode selfNamedText.toList))], []⟩

theorem run_over_its_own_schema :
    (SchemaFile.create 0 selfNamedTree (.ofString "a.sql")).2 = .ok () ∧
      (run 0 {} selfNamedTree ⟨.ofString "a.sql", none, none⟩).tree.readFile "a.sql" =
        .ok (Text.Utf8.encode "CREATE TABLE `A` (\n\t`\u00c9` INT NOT NULL\n);\n\n".toList) ∧
      ∃ x, (run 0 {} selfNamedTree ⟨.ofString "a.sql", none, none⟩).result = .ok x := by
  have hcreate : (SchemaFile.create 0 selfNamedTree (.ofString "a.sql")).2 = .ok () := rfl
  have hsize : (Text.Utf8.encode selfNamedText.toList).length ≤ Options.standard.maxFileSize := by decide +kernel
  have hends : Text.Free (· ∈ Text.memoryLineEnds) selfNamedText := by decide +kernel
  have hstop : (Script.ofText .standard selfNamedText).stop? = none := by
    rw [Script.ofText, Script.ofLines_eq_run]
    decide +kernel
  have hscript : scriptText (Script.ofText .standard selfNamedText).progress.draft.script =
      "CREATE TABLE `A` (\n\t`\u00c9` INT NOT NULL\n);\n\n" := by
    rw [Script.ofText, Script.ofLines_eq_run]
    decide +kernel
  obtain ⟨-, hagree⟩ := run_agrees_with_text (s := {}) (o := .standard) (t := selfNamedTree)
    (r := ⟨.ofString "a.sql", none, none⟩) rfl rfl hsize hcreate
  obtain ⟨hread, hresult, -⟩ := hagree selfNamedText rfl hends
  rw [hscript] at hread
  exact ⟨hcreate, hread, _, hresult hstop⟩

end Conversion

end SchemaDdl
