import SchemaDdl.Proofs.Concatenation

namespace SchemaDdl

open Automaton

def Options.withStrict (o : Options) (strict : Bool) : Options := { o with strict }

def Finding.stop (f : Finding) : Stop := .fault (.unmappedType f.lineNumber f.typeName)

namespace Automaton

variable {o : Options} {b : Block} {l : SourceLine} {next? : Option SourceLine}

/-- How the answers of a strict and of a lenient run compare where `b` is open: they are the same, or the lenient one is
a finding and the strict one its fault. -/
def Compares (b : Block) (strict lenient : Answer) : Prop :=
  (lenient.findings = [] ∧ strict = lenient) ∨
  ∃ f, lenient.findings = [f] ∧ lenient.stop? = none ∧ strict = { block := b, stop? := some f.stop }

theorem compares_column (block : String) (header : SourceLine) (field : Field) (last : Bool) :
    Compares (.table block header) (columnAnswer (o.withStrict true) block header l field last)
      (columnAnswer (o.withStrict false) block header l field last) := by
  unfold columnAnswer
  cases ColumnType.ofName? field.typeName with
  | some t => exact .inl ⟨rfl, rfl⟩
  | none => exact .inr ⟨_, rfl, rfl, rfl⟩

theorem compares_field :
    Compares b (fieldAnswer (o.withStrict true) b l next?) (fieldAnswer (o.withStrict false) b l next?) := by
  have hlength : next?.bind (lengthStop? (o.withStrict true)) = next?.bind (lengthStop? (o.withStrict false)) := rfl
  unfold fieldAnswer
  rw [hlength]
  cases Field.ofTokens (tokens l.text) l with
  | error f => exact .inl ⟨rfl, rfl⟩
  | ok field =>
    cases next?.bind (lengthStop? (o.withStrict false)) with
    | some s => exact .inl ⟨rfl, rfl⟩
    | none =>
      cases b with
      | outside | lookup => exact .inl ⟨rfl, rfl⟩
      | table block header => exact compares_column block header field _

theorem findings_lookupAnswer (name : String) (header : SourceLine) : (lookupAnswer name header l).findings = [] := by
  unfold lookupAnswer
  split
  · rfl
  · split <;> rfl

theorem compares_answer (o : Options) (b : Block) (l : SourceLine) (next? : Option SourceLine) :
    Compares b (answer (o.withStrict true) b l next?) (answer (o.withStrict false) b l next?) := by
  have hlength : lengthStop? (o.withStrict true) l = lengthStop? (o.withStrict false) l := rfl
  unfold answer
  rw [hlength]
  cases lengthStop? (o.withStrict false) l with
  | some s => exact .inl ⟨rfl, rfl⟩
  | none =>
    cases b with
    | outside =>
      unfold outsideAnswer
      cases l.kind with
      | record | enumeration => cases blockName (tokens l.text) l <;> exact .inl ⟨rfl, rfl⟩
      | field => exact compares_field
      | close | noise => exact .inl ⟨rfl, rfl⟩
    | table outer header =>
      unfold tableAnswer
      cases l.kind with
      | record | enumeration => cases blockName (tokens l.text) l <;> exact .inl ⟨rfl, rfl⟩
      | field => exact compares_field
      | close | noise => exact .inl ⟨rfl, rfl⟩
    | lookup name header => exact .inl ⟨findings_lookupAnswer name header, rfl⟩

theorem prefix_runFrom (o : Options) (p : Progress) (ls : List SourceLine) :
    p.draft.findings.toList <+: (runFrom o p ls).progress.draft.findings.toList ∧
      p.draft.script.toList <+: (runFrom o p ls).progress.draft.script.toList := by
  rw [runFrom_eq_after]
  simp [Outcome.after, Progress.followedBy]

/-- How the runs from `p` compare: they are the same and find nothing, or the strict one ends with the first finding of
the lenient one. -/
def Agrees (p : Progress) (strict lenient : Outcome) : Prop :=
  (lenient.progress.draft.findings = p.draft.findings ∧ strict = lenient) ∨
  ∃ f : Finding, p.draft.findings.toList ++ [f] <+: lenient.progress.draft.findings.toList ∧
    strict.stop? = some f.stop ∧ strict.progress.draft.script.toList <+: lenient.progress.draft.script.toList

theorem agrees_runFrom (o : Options) (p : Progress) (ls : List SourceLine) :
    Agrees p (runFrom (o.withStrict true) p ls) (runFrom (o.withStrict false) p ls) := by
  induction ls generalizing p with
  | nil => exact .inl ⟨rfl, rfl⟩
  | cons l ls ih =>
    obtain ⟨hfindings, hsame⟩ | ⟨f, hfindings, hgo, hstrict⟩ :=
      compares_answer o p.draft.block l ls.head?
    · have hextend : (extend p (answer (o.withStrict false) p.draft.block l ls.head?)).draft.findings =
          p.draft.findings := by
        simp [extend, hfindings]
      cases hs : (answer (o.withStrict false) p.draft.block l ls.head?).stop? with
      | some s =>
        rw [runFrom_stop hs, runFrom_stop (by rw [hsame, hs]), hsame]
        exact .inl ⟨hextend, rfl⟩
      | none =>
        have hrest := ih (extend p (answer (o.withStrict false) p.draft.block l ls.head?))
        unfold Agrees at hrest
        rw [hextend] at hrest
        rw [runFrom_cons hs, runFrom_cons (by rw [hsame, hs]), hsame]
        exact hrest
    · -- the runs part here, and the lenient one only adds to what it has
      rw [runFrom_stop (s := f.stop) (by rw [hstrict]), runFrom_cons hgo, hstrict]
      obtain ⟨hmore, hscript⟩ := prefix_runFrom (o.withStrict false)
        (extend p (answer (o.withStrict false) p.draft.block l ls.head?)) ls
      refine .inr ⟨f, ?_, rfl, ?_⟩
      · simpa [extend, hfindings] using hmore
      · refine List.IsPrefix.trans ?_ hscript
        simp [extend]

end Automaton

theorem toList_scriptText_prefix {s t : Array Fragment} (h : s.toList <+: t.toList) :
    (scriptText s).toList <+: (scriptText t).toList := by
  obtain ⟨more, hmore⟩ := h
  have ht : t = s ++ more.toArray := by
    apply Array.ext'
    simp [hmore]
  rw [ht, scriptText_append, String.toList_append]
  exact List.prefix_append _ _

namespace Script

/-- A strict run is the lenient run if that one has no findings. Otherwise it stops with the fault of the first finding,
and has written a first part of what the lenient run writes. So it succeeds exactly if the lenient run succeeds without
findings. -/
theorem strict_run_follows_lenient (o : Options) (lines : List String) :
    ((ofLines (o.withStrict false) lines).progress.draft.findings = #[] →
      ofLines (o.withStrict true) lines = ofLines (o.withStrict false) lines) ∧
    (∀ f : Finding, (ofLines (o.withStrict false) lines).progress.draft.findings[0]? = some f →
      (ofLines (o.withStrict true) lines).stop? = some (.fault (.unmappedType f.lineNumber f.typeName)) ∧
        (scriptText (ofLines (o.withStrict true) lines).progress.draft.script).toList <+:
          (scriptText (ofLines (o.withStrict false) lines).progress.draft.script).toList) ∧
    ((ofLines (o.withStrict true) lines).stop? = none ↔
      (ofLines (o.withStrict false) lines).stop? = none ∧
        (ofLines (o.withStrict false) lines).progress.draft.findings = #[]) := by
  rw [ofLines_eq_run, ofLines_eq_run]
  obtain ⟨hnone, hsame⟩ | ⟨f, ⟨fs, hfirst⟩, hstop, hscript⟩ := agrees_runFrom o {} (numberLines 1 lines)
  · have hnone : (Automaton.run (o.withStrict false) lines).progress.draft.findings = #[] := hnone
    have hsame : Automaton.run (o.withStrict true) lines = Automaton.run (o.withStrict false) lines := hsame
    refine ⟨fun _ ↦ hsame, ?_, ?_⟩
    · intro f hf
      simp [hnone] at hf
    · rw [hsame, hnone]
      simp
  · have hfindings : (Automaton.run (o.withStrict false) lines).progress.draft.findings = (f :: fs).toArray :=
      Array.ext' hfirst.symm
    have hstop : (Automaton.run (o.withStrict true) lines).stop? = some f.stop := hstop
    refine ⟨?_, ?_, ?_⟩
    · intro hnone
      simp [hfindings] at hnone
    · intro g hg
      obtain rfl : f = g := by simpa [hfindings] using hg
      exact ⟨hstop, toList_scriptText_prefix hscript⟩
    · simp [hstop, hfindings]

end Script

end SchemaDdl
