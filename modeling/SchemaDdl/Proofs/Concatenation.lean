import SchemaDdl.Proofs.Relabeling

namespace SchemaDdl

open Automaton

def SourceLine.shift (k : Int) (l : SourceLine) : SourceLine := { l with number := l.number + k }

def Unbalanced.shift (k : Int) : Unbalanced → Unbalanced
  | .opened name outer outerLine => .opened name outer (outerLine + k)
  | .nothingToClose => .nothingToClose
  | .rowsInside name outer => .rowsInside name outer
  | .lookupNeverClosed name => .lookupNeverClosed name
  | .neverClosed name => .neverClosed name

/-- The same fault, with every line number in it greater by `k`. -/
def Fault.shift (k : Int) : Fault → Fault
  | .malformed line cause => .malformed (line.shift k) cause
  | .unbalanced line cause => .unbalanced (line.shift k) (cause.shift k)
  | .lineTooLong number limit => .lineTooLong (number + k) limit
  | .unmappedType number typeName => .unmappedType (number + k) typeName
  | .noTokens => .noTokens
  | .noHeader => .noHeader

def Stop.shift (k : Int) : Stop → Stop
  | .fault f => .fault (f.shift k)
  | .undecodable f => .undecodable f

def Finding.shift (k : Int) (f : Finding) : Finding := { f with lineNumber := f.lineNumber + k }

def Progress.shift (k : Int) (p : Progress) : Progress :=
  { p with draft :=
    { p.draft with
      header? := p.draft.header?.map (SourceLine.shift k)
      findings := p.draft.findings.map (Finding.shift k) } }

def Outcome.shift (k : Int) (s : Outcome) : Outcome := ⟨s.progress.shift k, s.stop?.map (Stop.shift k)⟩

section Shift

variable (k : Int)

def Relabeling.shift : Relabeling := .renumber (· + k)

theorem Fault.relabel_shift (f : Fault) : f.relabel (.shift k) = f.shift k := by
  rcases f with _ | ⟨line, _ | _⟩ | _ | _ | _ | _ <;> rfl

theorem Stop.relabel_shift (s : Stop) : s.relabel (.shift k) = s.shift k := by
  cases s with
  | fault f => exact congrArg Stop.fault (f.relabel_shift k)
  | undecodable f => rfl

theorem Progress.relabel_shift (p : Progress) : p.relabel (.shift k) = p.shift k := rfl

theorem Outcome.relabel_shift (s : Outcome) : s.relabel (.shift k) = s.shift k := by
  have hs : Stop.relabel (.shift k) = Stop.shift k := funext (Stop.relabel_shift k)
  simp only [Outcome.relabel, Outcome.shift, Progress.relabel_shift, hs]

theorem Automaton.runFrom_shift (o : Options) (p : Progress) (ls : List SourceLine) :
    runFrom o (p.shift k) (ls.map (SourceLine.shift k)) = (runFrom o p ls).shift k := by
  rw [← Progress.relabel_shift, ← Outcome.relabel_shift]
  exact runFrom_relabel p fun l _ ↦ limitIgnores_of_text_eq rfl

end Shift

/-- What `p` has written, and then what `q` has written. -/
def Progress.followedBy (p q : Progress) : Progress where
  draft :=
    { place := q.draft.place
      blockName? := q.draft.blockName?
      header? := q.draft.header?
      tables := p.draft.tables ++ q.draft.tables
      lookups := p.draft.lookups ++ q.draft.lookups
      findings := p.draft.findings ++ q.draft.findings
      script := p.draft.script ++ q.draft.script }
  events := p.events ++ q.events

/-- What is open in `p`, with nothing written. -/
def Progress.emptied (p : Progress) : Progress where
  draft := { place := p.draft.place, blockName? := p.draft.blockName?, header? := p.draft.header? }

def Outcome.after (p : Progress) (s : Outcome) : Outcome := { s with progress := p.followedBy s.progress }

namespace Automaton

variable {o : Options}

theorem extend_followedBy (p q : Progress) (a : Answer) :
    extend (p.followedBy q) a = p.followedBy (extend q a) := by
  simp only [extend, Progress.followedBy, Draft.place_within, Draft.blockName?_within, Draft.header?_within,
    array_append_array_list]

/-- A run knows the open block, and of all that was written before nothing else. -/
theorem runFrom_followedBy (p q : Progress) (ls : List SourceLine) :
    runFrom o (p.followedBy q) ls = (runFrom o q ls).after p := by
  induction ls generalizing q with
  | nil => rfl
  | cons l ls ih =>
    have hb : (p.followedBy q).draft.block = q.draft.block := rfl
    cases hs : (answer o q.draft.block l ls.head?).stop? with
    | some s =>
      rw [runFrom_stop hs, runFrom_stop (by rw [hb, hs]), hb, extend_followedBy]
      rfl
    | none => rw [runFrom_cons hs, runFrom_cons (by rw [hb, hs]), hb, extend_followedBy, ih]

theorem followedBy_emptied (p : Progress) : p.followedBy p.emptied = p := by
  simp [Progress.followedBy, Progress.emptied]

theorem runFrom_eq_after (p : Progress) (ls : List SourceLine) :
    runFrom o p ls = (runFrom o p.emptied ls).after p := by
  rw [← runFrom_followedBy, followedBy_emptied]

end Automaton

theorem numberLines_shift (n k : Int) (lines : List String) :
    numberLines (n + k) lines = (numberLines n lines).map (SourceLine.shift k) := by
  induction lines generalizing n with
  | nil => rfl
  | cons raw lines ih =>
    have hn : n + k + 1 = n + 1 + k := by omega
    rw [numberLines, numberLines, List.map_cons, ← ih, hn]
    rfl

theorem Automaton.run_append {o : Options} {first second : List String} (h : (run o first).stop? = none) :
    run o (first ++ second) = ((run o second).shift first.length).after (run o first).progress := by
  have hlines := h
  rw [← Script.ofLines_eq_run] at hlines
  obtain ⟨hshort, doc, hdoc⟩ := Script.document_of_succeeds hlines
  have hs : ∀ l ∈ doc.flatMap Section.lines, lengthStop? o l = none := by
    intro l hl
    rw [hdoc.lines_eq] at hl
    rw [lengthStop?_eq_none_iff]
    exact (forall_numberLines (P := (·.length ≤ o.maxLineLength)) 1 first).2 hshort l hl
  have hfirst : (run o first).progress = extend {} (documentAnswer doc) := by
    rw [← Script.ofLines_eq_run, Script.ofLines_document hdoc hshort]
  have hsecond : ({} : Progress) = ({} : Progress).shift first.length := by simp [Progress.shift]
  calc run o (first ++ second)
      = runFrom o {} (doc.flatMap Section.lines ++ numberLines (1 + first.length) second) := by
        rw [run, numberLines_append, hdoc.lines_eq]
    _ = runFrom o (extend {} (documentAnswer doc)) (numberLines (1 + first.length) second) :=
        runFrom_document (p := {}) rfl hdoc.valid hs _
    _ = (runFrom o {} ((numberLines 1 second).map (SourceLine.shift first.length))).after (run o first).progress := by
        rw [runFrom_eq_after, hfirst, numberLines_shift]
        rfl
    _ = ((run o second).shift first.length).after (run o first).progress := by
        rw [hsecond, runFrom_shift]
        rfl

theorem scriptText_append (s t : Array Fragment) : scriptText (s ++ t) = scriptText s ++ scriptText t := by
  rw [scriptText_eq_join, scriptText_eq_join, scriptText_eq_join]
  simp [String.join_append]

namespace Script

/-- Behind a complete document the run writes and reports what it would alone, with line numbers that count on from
the end of that document. -/
theorem ofLines_append_of_succeeds (o : Options) (first second : List String) (h : (ofLines o first).stop? = none) :
    scriptText (ofLines o (first ++ second)).progress.draft.script =
        scriptText (ofLines o first).progress.draft.script ++ scriptText (ofLines o second).progress.draft.script ∧
      (ofLines o (first ++ second)).progress.draft.tables =
        (ofLines o first).progress.draft.tables ++ (ofLines o second).progress.draft.tables ∧
      (ofLines o (first ++ second)).progress.draft.lookups =
        (ofLines o first).progress.draft.lookups ++ (ofLines o second).progress.draft.lookups ∧
      (ofLines o (first ++ second)).progress.draft.findings =
        (ofLines o first).progress.draft.findings ++
          (ofLines o second).progress.draft.findings.map (Finding.shift first.length) ∧
      (ofLines o (first ++ second)).stop? = (ofLines o second).stop?.map (Stop.shift first.length) := by
  rw [ofLines_eq_run] at h
  rw [ofLines_eq_run, ofLines_eq_run, ofLines_eq_run, run_append h]
  exact ⟨scriptText_append _ _, rfl, rfl, rfl, rfl⟩

theorem ofLines_append_nested :
    (ofLines .standard ["struct A \x7b", " 1: optional map m", "\x7d"]).stop? = none ∧
      (ofLines .standard (["struct A \x7b", " 1: optional map m", "\x7d"] ++
          ["struct B \x7b", " 1: optional set s", "struct C \x7b"])).stop? =
        some (.fault (.unbalanced ⟨6, "struct C \x7b"⟩ (.opened "C" "B" 4))) ∧
      (ofLines .standard (["struct A \x7b", " 1: optional map m", "\x7d"] ++
          ["struct B \x7b", " 1: optional set s", "struct C \x7b"])).progress.draft.findings =
        #[⟨2, "A", "m", "map"⟩, ⟨5, "B", "s", "set"⟩] := by
  have h : (ofLines .standard ["struct A \x7b", " 1: optional map m", "\x7d"]).stop? = none := by
    rw [ofLines_eq_run]
    decide +kernel
  obtain ⟨-, -, -, hfindings, hstop⟩ := ofLines_append_of_succeeds .standard _
    ["struct B \x7b", " 1: optional set s", "struct C \x7b"] h
  refine ⟨h, ?_, ?_⟩
  · rw [hstop, ofLines_eq_run]
    decide +kernel
  · rw [hfindings, ofLines_eq_run, ofLines_eq_run]
    decide +kernel

end Script

end SchemaDdl
