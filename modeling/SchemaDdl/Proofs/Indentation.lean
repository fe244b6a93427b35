import Mathlib.Data.List.DropRight
import SchemaDdl.Proofs.FileConversion
import SchemaDdl.Proofs.LineLimit

namespace SchemaDdl

namespace Text

variable {p : Char → Bool} {s tail : List Char}

theorem dropEnds_append_of_pos (h : ∀ c ∈ tail, p c) : dropEnds p (s ++ tail) = dropEnds p s := by
  unfold dropEnds
  rw [List.dropWhile_append]
  split
  next he =>
    rw [List.isEmpty_iff] at he
    rw [he, List.dropWhile_eq_nil_iff.2 h]
  next => exact dropTail_append_of_pos h

theorem trim_trim (t : String) : trim (trim t) = trim t := by
  unfold trim
  rw [String.toList_ofList]
  exact congrArg String.ofList (dropEnds_append (a := []) (by simp) tight_dropEnds)

theorem trim_dropTerminator (raw : String) : trim (dropTerminator raw) = trim raw := by
  obtain ⟨tail, hsplit, htail⟩ := exists_dropTail_append (fun c ↦ c = '\r' ∨ c = '\n') raw.toList
  have hblank : ∀ c ∈ tail, isBlank c := by
    intro c hc
    obtain rfl | rfl := of_decide_eq_true (htail c hc)
    · decide
    · decide
  unfold trim dropTerminator
  rw [String.toList_ofList]
  conv_rhs => rw [hsplit]
  exact congrArg String.ofList (dropEnds_append_of_pos hblank).symm

theorem length_trim_le (t : String) : (trim t).length ≤ t.length := by
  have htail := (List.rdropWhile_prefix isBlank (l := t.toList.dropWhile isBlank)).length_le
  have hhead := (List.dropWhile_suffix isBlank (l := t.toList)).length_le
  calc (trim t).length = (dropEnds isBlank t.toList).length := by rw [trim, String.length_ofList]
    _ ≤ t.toList.length := htail.trans hhead
    _ = t.length := String.length_toList

end Text

def Relabeling.trimming : Relabeling := ⟨id, Text.trim, Text.trim_trim⟩

/-- The same fault, of a line that may have other white space around it. -/
inductive Fault.Alike : Fault → Fault → Prop
  | malformed {l l' : SourceLine} (cause : Malformed) : l.number = l'.number → l.trimmed = l'.trimmed →
      Alike (.malformed l cause) (.malformed l' cause)
  | unbalanced {l l' : SourceLine} (cause : Unbalanced) : l.number = l'.number → l.trimmed = l'.trimmed →
      Alike (.unbalanced l cause) (.unbalanced l' cause)
  | same (f : Fault) : Alike f f

theorem Fault.Alike.message_eq {f f' : Fault} (h : f.Alike f') : f.message = f'.message := by
  cases h with
  | malformed cause hn ht => simp only [Fault.message, lineMessage, hn, ht]
  | unbalanced cause hn ht => simp only [Fault.message, lineMessage, hn, ht]
  | same f => rfl

theorem SourceLine.eq_of_relabel_trimming {l l' : SourceLine} (h : l.relabel .trimming = l'.relabel .trimming) :
    l.number = l'.number ∧ l.trimmed = l'.trimmed :=
  SourceLine.mk.inj h

theorem Unbalanced.relabel_trimming (cause : Unbalanced) : cause.relabel .trimming = cause := by
  cases cause <;> rfl

theorem Fault.alike_of_relabel_trimming {f f' : Fault} (h : f.relabel .trimming = f'.relabel .trimming) :
    f.Alike f' := by
  cases f with
  | malformed l cause =>
    cases f' with
    | malformed l' cause' =>
      obtain ⟨hl, rfl⟩ := Fault.malformed.inj h
      obtain ⟨hn, ht⟩ := SourceLine.eq_of_relabel_trimming hl
      exact .malformed cause hn ht
    | _ => cases h
  | unbalanced l cause =>
    cases f' with
    | unbalanced l' cause' =>
      obtain ⟨hl, hc⟩ := Fault.unbalanced.inj h
      rw [Unbalanced.relabel_trimming, Unbalanced.relabel_trimming] at hc
      obtain ⟨hn, ht⟩ := SourceLine.eq_of_relabel_trimming hl
      rw [hc]
      exact .unbalanced cause' hn ht
    | _ => cases h
  | lineTooLong number limit =>
    cases f' with
    | lineTooLong number' limit' =>
      obtain ⟨hn, rfl⟩ := Fault.lineTooLong.inj h
      obtain rfl : number = number' := hn
      exact .same _
    | _ => cases h
  | unmappedType number typeName =>
    cases f' with
    | unmappedType number' typeName' =>
      obtain ⟨hn, rfl⟩ := Fault.unmappedType.inj h
      obtain rfl : number = number' := hn
      exact .same _
    | _ => cases h
  | noTokens =>
    cases f' with
    | noTokens => exact .same _
    | _ => cases h
  | noHeader =>
    cases f' with
    | noHeader => exact .same _
    | _ => cases h

theorem numberLines_relabel_trimming {lines lines' : List String} (h : lines.map Text.trim = lines'.map Text.trim)
    (n : Int) : (numberLines n lines).map (SourceLine.relabel .trimming) =
      (numberLines n lines').map (SourceLine.relabel .trimming) := by
  induction lines generalizing lines' n with
  | nil =>
    rw [List.map_nil, eq_comm, List.map_eq_nil_iff] at h
    rw [h]
  | cons raw lines ih =>
    obtain ⟨raw', lines', rfl, hraw, htail⟩ := List.map_eq_cons_iff.1 h.symm
    have htext : Text.trim (Text.dropTerminator raw) = Text.trim (Text.dropTerminator raw') := by
      rw [Text.trim_dropTerminator, Text.trim_dropTerminator, hraw]
    rw [numberLines, numberLines, List.map_cons, List.map_cons, ih htail.symm]
    simp only [SourceLine.relabel, Relabeling.trimming, htext]

namespace Script

open Automaton

theorem relabel_trimming_ofLines {o : Options} {lines : List String} (h : KeepsLimit o.maxLineLength lines) :
    (ofLines o lines).relabel .trimming =
      runFrom o {} ((numberLines 1 lines).map (SourceLine.relabel .trimming)) := by
  rw [ofLines_eq_run, Automaton.run, ← runFrom_relabel, Progress.relabel_start]
  intro l hl
  have hlength : l.text.length ≤ o.maxLineLength :=
    (forall_numberLines (P := (·.length ≤ o.maxLineLength)) 1 lines).2 h l hl
  have hshort : lengthStop? o l = none := lengthStop?_eq_none_iff.2 hlength
  have htrim : lengthStop? o (l.relabel .trimming) = none :=
    lengthStop?_eq_none_iff.2 ((Text.length_trim_le l.text).trans hlength)
  rw [LimitIgnores, hshort, htrim]
  rfl

theorem fault_of_stop {o : Options} {lines : List String} {s : Stop} (h : (ofLines o lines).stop? = some s) :
    ∃ f, s = .fault f := by
  cases s with
  | fault f => exact ⟨f, rfl⟩
  | undecodable f => cases (fault?_of_ofSupply o { lines }).2 f h

/-- White space around lines has no effect on a run, but for what a fault shows of it. -/
theorem ofLines_congr_of_trim_eq (o : Options) (lines lines' : List String)
    (htrim : lines.map Text.trim = lines'.map Text.trim) (hkeep : KeepsLimit o.maxLineLength lines)
    (hkeep' : KeepsLimit o.maxLineLength lines') :
    scriptText (ofLines o lines).progress.draft.script = scriptText (ofLines o lines').progress.draft.script ∧
      (ofLines o lines).progress.draft.tables = (ofLines o lines').progress.draft.tables ∧
      (ofLines o lines).progress.draft.lookups = (ofLines o lines').progress.draft.lookups ∧
      (ofLines o lines).progress.draft.findings = (ofLines o lines').progress.draft.findings ∧
      ((ofLines o lines).stop? = none ∧ (ofLines o lines').stop? = none ∨
        ∃ f f', (ofLines o lines).stop? = some (.fault f) ∧ (ofLines o lines').stop? = some (.fault f') ∧
          f.Alike f' ∧ f.message = f'.message) := by
  have hsame : (ofLines o lines).relabel .trimming = (ofLines o lines').relabel .trimming := by
    rw [relabel_trimming_ofLines hkeep, relabel_trimming_ofLines hkeep', numberLines_relabel_trimming htrim]
  simp only [Outcome.relabel, Progress.relabel, Draft.relabel, Outcome.mk.injEq, Progress.mk.injEq,
    Draft.mk.injEq] at hsame
  obtain ⟨⟨⟨-, -, -, htables, hlookups, hfindings, hscript⟩, -⟩, hstop⟩ := hsame
  have hid : Finding.relabel .trimming = id := rfl
  rw [hid, Array.map_id, Array.map_id] at hfindings
  refine ⟨congrArg scriptText hscript, htables, hlookups, hfindings, ?_⟩
  cases hs : (ofLines o lines).stop? with
  | none =>
    rw [hs, Option.map_none, eq_comm, Option.map_eq_none_iff] at hstop
    exact .inl ⟨rfl, hstop⟩
  | some s =>
    rw [hs, Option.map_some, eq_comm] at hstop
    obtain ⟨s', hs', hrelabel⟩ := Option.map_eq_some_iff.1 hstop
    obtain ⟨f, rfl⟩ := fault_of_stop hs
    obtain ⟨f', rfl⟩ := fault_of_stop hs'
    have halike : f.Alike f' := Fault.alike_of_relabel_trimming (Stop.fault.inj hrelabel).symm
    exact .inr ⟨f, f', rfl, hs', halike, halike.message_eq⟩

def spacedLines : List String :=
  ["\tstruct A \x7b\r\n", "1: required i32 id:\u3000\n", "\u00a0struct B \x7b\x1c"]

def plainLines : List String := ["struct A \x7b", "  1: required i32 id:", "struct B \x7b\r"]

/-- The faults show the line with its white space, and say the same of it. -/
theorem ofLines_congr_spaced :
    spacedLines.map Text.trim = plainLines.map Text.trim ∧
      scriptText (ofLines .standard spacedLines).progress.draft.script =
        scriptText (ofLines .standard plainLines).progress.draft.script ∧
      ∃ f f', (ofLines .standard spacedLines).stop? = some (.fault f) ∧
        (ofLines .standard plainLines).stop? = some (.fault f') ∧ f ≠ f' ∧ f.message = f'.message := by
  have htrim : spacedLines.map Text.trim = plainLines.map Text.trim := by decide +kernel
  have hspaced : (ofLines .standard spacedLines).stop? =
      some (.fault (.unbalanced ⟨3, "\u00a0struct B \x7b\x1c"⟩ (.opened "B" "A" 1))) := by
    rw [ofLines_eq_run]
    decide +kernel
  have hplain : (ofLines .standard plainLines).stop? =
      some (.fault (.unbalanced ⟨3, "struct B \x7b"⟩ (.opened "B" "A" 1))) := by
    rw [ofLines_eq_run]
    decide +kernel
  obtain ⟨hscript, -, -, -, hstop⟩ :=
    ofLines_congr_of_trim_eq .standard spacedLines plainLines htrim (by decide +kernel) (by decide +kernel)
  refine ⟨htrim, hscript, ?_⟩
  obtain ⟨hnone, -⟩ | ⟨f, f', hf, hf', -, hmessage⟩ := hstop
  · rw [hspaced] at hnone
    cases hnone
  · refine ⟨f, f', hf, hf', ?_, hmessage⟩
    rintro rfl
    rw [hspaced, ← hf', hplain] at hf
    exact absurd hf (by decide)

end Script

end SchemaDdl
