import SchemaDdl.Proofs.FileChanges
import SchemaDdl.Proofs.FileConversion

namespace SchemaDdl

theorem Settings.extension_of_check {s : Settings} {o : Options} (h : s.check = .ok o) :
    s.extension = .text o.extension := by
  rw [check_eq_ok_iff.1 h]
  rfl

/-- A request as texts name it. -/
def Request.ofTexts (schema : String) (directory name : Option String) : Request :=
  ⟨.ofString schema, directory.map .ofString, name⟩

namespace Conversion

open FileTree

variable {depth : Nat} {s : Settings} {o : Options} {t : FileTree} {r : Request} {b : List UInt8}

/-- The settings pass their check, and the schema is a regular file within the limit. -/
structure Opens (s : Settings) (t : FileTree) (r : Request) (o : Options) (b : List UInt8) : Prop where
  check_eq : s.check = .ok o
  stat_eq : t.stat r.schema.text = .ok (.file b)
  size_le : b.length ≤ o.maxFileSize

theorem isReported_of_resultOf {path : Path} {outcome : Outcome} {f : ConversionFault}
    (h : resultOf r path outcome = .error f) : f.isReported = true := by
  unfold resultOf at h
  split at h
  · cases h
    rfl
  · cases h
    rfl
  · cases h

theorem exists_refusal {path : Path} (limit : Nat) (hnull : '\x00' ∉ path.text.toList)
    (h : ∀ b, t.stat path.text = .ok (.file b) → limit < b.length) :
    ∃ f, (SchemaFile.boundedSize t path limit >>= fun _ ↦ SchemaFile.lines t path) = .error f ∧
      (ConversionFault.file f).isReported = true := by
  unfold SchemaFile.boundedSize SchemaFile.size
  cases hstat : t.stat path.text with
  | error f =>
    cases f with
    | nullCharacter => exact absurd hstat (stat_ne_null hnull)
    | system g => exact ⟨_, rfl, rfl⟩
  | ok e =>
    cases e with
    | directory => exact ⟨_, rfl, rfl⟩
    | file b =>
      have hlong : (limit : Int) < b.length := by exact_mod_cast h b hstat
      exact ⟨.tooLarge path limit, by simp [bind, Except.bind, hlong], rfl⟩
    | locked size =>
      by_cases hlong : (limit : Int) < size
      · exact ⟨.tooLarge path limit, by simp [bind, Except.bind, hlong], rfl⟩
      · have hread : t.readFile path.text = refuse .permission path.text := by
          rw [readFile, hstat]
          rfl
        refine ⟨.inaccessible path ⟨.permission, path.text⟩, ?_, rfl⟩
        simp [bind, Except.bind, hlong, SchemaFile.lines, hread, refuse, pure, Except.pure]

theorem run_of_not_opens (hnull : '\x00' ∉ r.schema.text.toList) (h : ∀ o b, ¬Opens s t r o b) :
    (∃ f, (run depth s t r).result = .error f ∧ f.isReported = true) ∧ (run depth s t r).tree = t := by
  unfold run
  cases hcheck : s.check with
  | error f => exact ⟨⟨_, rfl, rfl⟩, rfl⟩
  | ok o =>
    obtain ⟨f, hf, hreported⟩ := exists_refusal (t := t) o.maxFileSize hnull fun b hstat ↦ by
      by_contra hle
      exact h o b ⟨hcheck, hstat, by omega⟩
    have hopened : withOptions depth o t r = ⟨t, #[.starting r.schema.text], .error (.file f)⟩ := by
      simp only [withOptions, hf]
    dsimp only
    rw [hopened]
    exact ⟨⟨_, rfl, hreported⟩, rfl⟩

theorem writeScript_of_create_error {f : FileFault} (h : (SchemaFile.create depth t (r.output o.extension)).2 = .error f)
    (supply : Text.LineSupply) (events : Array Event) :
    (writeScript depth o t r supply events).tree = (SchemaFile.create depth t (r.output o.extension)).1 ∧
      (writeScript depth o t r supply events).result = .error (.file f) := by
  unfold writeScript
  dsimp only
  generalize SchemaFile.create depth t (r.output o.extension) = made at h ⊢
  obtain ⟨t', _⟩ := made
  cases h
  exact ⟨rfl, rfl⟩

theorem run_of_opens (h : Opens s t r o b) :
    (∃ f, (SchemaFile.create depth t (r.output o.extension)).2 = .error f ∧ (run depth s t r).result = .error (.file f) ∧
        (run depth s t r).tree = (SchemaFile.create depth t (r.output o.extension)).1) ∨
      ∃ outcome : Outcome, (run depth s t r).result = resultOf r (r.output o.extension) outcome ∧
        (run depth s t r).tree = SchemaFile.fill (SchemaFile.create depth t (r.output o.extension)).1
          (r.output o.extension) (scriptText outcome.progress.draft.script) := by
  rw [run_of_file h.check_eq h.stat_eq h.size_le]
  cases hcreate : (SchemaFile.create depth t (r.output o.extension)).2 with
  | error f =>
    obtain ⟨htree, hresult⟩ := writeScript_of_create_error hcreate (.ofBytes b) #[.starting r.schema.text]
    exact .inl ⟨f, rfl, hresult, htree⟩
  | ok u =>
    obtain ⟨htree, hresult⟩ := writeScript_of_create hcreate (.ofBytes b) #[.starting r.schema.text]
    exact .inr ⟨_, hresult, htree⟩

theorem isReported_or_tooDeep (hp : (r.output o.extension).Sound) (h : Opens s t r o b) {f : ConversionFault}
    (hf : (run depth s t r).result = .error f) :
    f.isReported = true ∨ f = .file .tooDeep ∧ (run depth s t r).tree = t := by
  have hcreates := SchemaFile.creates_create depth t (r.output o.extension)
  obtain ⟨g, hcreate, hresult, htree⟩ | ⟨outcome, hresult, -⟩ := run_of_opens h
  · rw [hresult] at hf
    cases hf
    cases g with
    | nullCharacter => exact absurd hcreate (hcreates.ne_null hp)
    | tooDeep => exact .inr ⟨rfl, htree.trans (hcreates.buried hp hcreate).1⟩
    | _ => exact .inl rfl
  · rw [hresult] at hf
    exact .inl (isReported_of_resultOf hf)

theorem result_eq_tooDeep_iff (hp : (r.output o.extension).Sound) (h : Opens s t r o b) :
    (run depth s t r).result = .error (.file .tooDeep) ↔ Buried depth t (r.output o.extension) := by
  constructor
  · intro hdeep
    obtain ⟨g, hcreate, hresult, -⟩ | ⟨outcome, hresult, -⟩ := run_of_opens h
    · rw [hresult] at hdeep
      cases hdeep
      exact ((SchemaFile.creates_create depth t (r.output o.extension)).buried hp hcreate).2
    · rw [hresult] at hdeep
      cases isReported_of_resultOf hdeep
  · intro hburied
    have hcreate : (SchemaFile.create depth t (r.output o.extension)).2 = .error .tooDeep := by
      rw [SchemaFile.create_of_buried hp hburied]
    rw [run_of_file h.check_eq h.stat_eq h.size_le]
    exact (writeScript_of_create_error hcreate (.ofBytes b) #[.starting r.schema.text]).2

theorem changesOnly_run (hp : (r.output o.extension).Sound) (h : Opens s t r o b) :
    ChangesOnly (r.output o.extension) t (run depth s t r).tree := by
  have hcreate := (SchemaFile.creates_create depth t (r.output o.extension)).changesOnly hp
  obtain ⟨g, -, -, htree⟩ | ⟨outcome, -, htree⟩ := run_of_opens h
  · rw [htree]
    exact hcreate
  · rw [htree]
    exact hcreate.trans (SchemaFile.changesOnly_fill hp _)

theorem sound_output_ofTexts {schema : String} {directory name : Option String} (hschema : '\x00' ∉ schema.toList)
    (hdirectory : ∀ d ∈ directory, '\x00' ∉ d.toList) (hname : ∀ n ∈ name, '\x00' ∉ n.toList)
    {extension : String} (hextension : '\x00' ∉ extension.toList) :
    ((Request.ofTexts schema directory name).output extension).Sound := by
  refine Path.sound_output (Path.sound_ofString hschema) ?_ hname hextension
  intro d hd
  obtain ⟨text, htext, rfl⟩ := Option.map_eq_some_iff.1 hd
  exact Path.sound_ofString (hdirectory text htext)

/-- A conversion reports all its faults as its own, but for one: that too many directories above its output are missing.
With settings that fail their check or a schema that cannot be opened it changes nothing. In all other cases it changes
the place of its output only, and makes directories above it. -/
theorem run_confined (depth : Nat) (s : Settings) (t : FileTree) (schema : String) (directory name : Option String)
    (hschema : '\x00' ∉ schema.toList) (hdirectory : ∀ d ∈ directory, '\x00' ∉ d.toList)
    (hname : ∀ n ∈ name, '\x00' ∉ n.toList) (hextension : ∀ e, s.extension = .text e → '\x00' ∉ e.toList) :
    let r := Request.ofTexts schema directory name
    let c := run depth s t r
    (∀ f, c.result = .error f → f.isReported = true ∨ f = .file .tooDeep ∧ c.tree = t) ∧
    (c.result = .error (.file .tooDeep) ↔ ∃ o b, Opens s t r o b ∧ Buried depth t (r.output o.extension)) ∧
    ((∀ o b, ¬Opens s t r o b) → (∃ f, c.result = .error f) ∧ c.tree = t) ∧
    ∀ o, s.check = .ok o → ChangesOnly (r.output o.extension) t c.tree := by
  intro r c
  have hsound (o : Options) (ho : s.check = .ok o) : (r.output o.extension).Sound :=
    sound_output_ofTexts hschema hdirectory hname (hextension _ (Settings.extension_of_check ho))
  have hnull : '\x00' ∉ r.schema.text.toList := Path.null_not_mem_text (Path.sound_ofString hschema)
  by_cases hopens : ∃ o b, Opens s t r o b
  · obtain ⟨o, b, hob⟩ := hopens
    have hp := hsound o hob.check_eq
    refine ⟨fun f hf ↦ isReported_or_tooDeep hp hob hf, ?_, fun hnone ↦ absurd hob (hnone o b), ?_⟩
    · constructor
      · intro hdeep
        exact ⟨o, b, hob, (result_eq_tooDeep_iff hp hob).1 hdeep⟩
      · rintro ⟨o', b', hob', hburied⟩
        exact (result_eq_tooDeep_iff (hsound o' hob'.check_eq) hob').2 hburied
    · intro o' ho'
      rw [hob.check_eq] at ho'
      cases ho'
      exact changesOnly_run hp hob
  · have hnone (o : Options) (b : List UInt8) (h : Opens s t r o b) : False := hopens ⟨o, b, h⟩
    obtain ⟨⟨g, hresult, hreported⟩, htree⟩ := run_of_not_opens hnull hnone
    refine ⟨?_, ?_, fun _ ↦ ⟨⟨g, hresult⟩, htree⟩, ?_⟩
    · intro f hf
      rw [hresult] at hf
      cases hf
      exact .inl hreported
    · constructor
      · intro hdeep
        rw [hresult] at hdeep
        cases hdeep
        cases hreported
      · rintro ⟨o, b, hob, -⟩
        exact (hnone o b hob).elim
    · intro o ho
      rw [htree]
      exact .refl _ t

/-- A directory with a schema, beside a file that the conversion has nothing to do with. -/
def besideTree : FileTree :=
  ⟨[(["w"], .directory),
    (["w", "s.thrift"], .file (Text.Utf8.encode "struct A \x7b\n 1: required i32 id;\n\x7d\n".toList)),
    (["w", "out"], .directory), (["w", "out", "other"], .file [7])], ["w"]⟩

theorem run_confined_beside :
    (∀ f, (run 990 {} besideTree (.ofTexts "s.thrift" (some "new/../out/deep") none)).result = .error f →
      f.isReported = true) ∧
    FileTree.find? (run 990 {} besideTree (.ofTexts "s.thrift" (some "new/../out/deep") none)).tree ["w", "out", "other"] =
      some (.file [7]) := by
  obtain ⟨hreported, hdeep, -, hchanges⟩ := run_confined 990 {} besideTree "s.thrift" (some "new/../out/deep") none
    (by decide) (by intro d hd; cases hd; decide) (by simp) (by intro e he; cases he; decide)
  have hshallow : (run 990 {} besideTree (.ofTexts "s.thrift" (some "new/../out/deep") none)).result ≠
      .error (.file .tooDeep) := by
    intro h
    obtain ⟨o, b, hopens, hburied⟩ := hdeep.1 h
    cases hopens.check_eq
    exact absurd hburied.deep (by decide)
  refine ⟨?_, ?_⟩
  · intro f hf
    obtain h | ⟨rfl, -⟩ := hreported f hf
    · exact h
    · exact absurd hf hshallow
  · by_contra hne
    obtain hplace | ⟨hnone, -⟩ := (hchanges .standard rfl).changed ["w", "out", "other"] hne
    · exact absurd hplace (by decide)
    · exact absurd hnone (by decide)

/-- Down into a missing directory and up again, `n` times. -/
def zigzag (n : Nat) : List String := (List.replicate n ["d", ".."]).flatten

theorem zigzag_succ (n : Nat) : zigzag (n + 1) = "d" :: ".." :: zigzag n := rfl

theorem length_zigzag (n : Nat) : (zigzag n).length = 2 * n := by
  induction n with
  | zero => rfl
  | succ n ih =>
    rw [zigzag_succ, List.length_cons, List.length_cons, ih]
    omega

theorem mem_zigzag {n : Nat} {c : String} (h : c ∈ zigzag n) : c = "d" ∨ c = ".." := by
  obtain ⟨pair, hpair, hc⟩ := List.mem_flatten.1 h
  cases List.eq_of_mem_replicate hpair
  simpa using hc

theorem ofString_zigzag (n : Nat) : Path.ofString (String.join (List.replicate n "d/../")) = ⟨.relative, zigzag n⟩ := by
  have hparts : Path.components (String.join (List.replicate n "d/../")).toList = zigzag n := by
    induction n with
    | zero => rfl
    | succ n ih =>
      rw [List.replicate_succ, String.join_cons, String.toList_append, zigzag_succ, ← ih]
      rfl
  have hanchor : (String.join (List.replicate n "d/../")).toList.takeWhile (· = '/') = [] := by
    cases n with
    | zero => rfl
    | succ n =>
      rw [List.replicate_succ, String.join_cons, String.toList_append]
      rfl
  simp only [Path.ofString, hparts, hanchor, List.length_nil]

theorem output_zigzag (n : Nat) :
    (Request.ofTexts "s.thrift" (some (String.join (List.replicate n "d/../"))) none).output
      Options.standard.extension = ⟨.relative, zigzag n ++ ["s.sql"]⟩ := by
  have hname : Path.ofString ((Path.ofString "s.thrift").stem ++ Options.standard.extension) =
      ⟨.relative, ["s.sql"]⟩ := by decide
  simp only [Request.output, Request.ofTexts, Path.output, Option.map_some, Option.getD_some, ofString_zigzag, hname,
    Path.join]

theorem sound_zigzag (n : Nat) : (Path.mk .relative (zigzag n ++ ["s.sql"])).Sound := by
  intro c hc
  obtain hc | hc := List.mem_append.1 hc
  · obtain rfl | rfl := mem_zigzag hc
    · exact ⟨by decide, by decide, by decide, by decide⟩
    · exact ⟨by decide, by decide, by decide, by decide⟩
  · cases List.mem_singleton.1 hc
    exact ⟨by decide, by decide, by decide, by decide⟩

theorem buried_zigzag (n : Nat) (hdeep : depth + 1 < 2 * n) (hshort : 6 * n + 6 ≤ maxPath) (t : FileTree)
    (hcurrent : t.find? t.current = some .directory) (hnone : t.find? (t.current ++ ["d"]) = none) :
    Buried depth t ⟨.relative, zigzag n ++ ["s.sql"]⟩ := by
  obtain ⟨m, rfl⟩ : ∃ m, n = m + 1 := ⟨n - 1, by omega⟩
  have hsize : ("/".intercalate (zigzag (m + 1))).utf8ByteSize ≤ (zigzag (m + 1)).length * 3 := by
    apply Path.utf8ByteSize_intercalate_le
    intro c hc
    obtain rfl | rfl := mem_zigzag hc <;> decide
  have hlen := length_zigzag (m + 1)
  have hparts : (Path.mk .relative (zigzag (m + 1) ++ ["s.sql"])).parts = "d" :: ".." :: (zigzag m ++ ["s.sql"]) := rfl
  refine buried_of_first (sound_zigzag (m + 1)) ?_ hcurrent ?_ hparts (by decide) (by decide) hnone
  · rw [Path.text_concat (by simp [zigzag_succ]), Path.text_of_parts_ne_nil (by simp [zigzag_succ])]
    have hslash : "/".utf8ByteSize = 1 := by decide
    have hname : "s.sql".utf8ByteSize = 5 := by decide
    have hanchor : (Anchor.text .relative).utf8ByteSize = 0 := by decide
    simp only [String.utf8ByteSize_append]
    omega
  · rw [List.length_append, List.length_singleton]
    omega

def emptySchemaTree : FileTree := ⟨[(["s.thrift"], .file [])], []⟩

theorem run_zigzag (n : Nat) (hdeep : depth + 1 < 2 * n) (hshort : 6 * n + 6 ≤ maxPath) :
    (run depth {} emptySchemaTree (.ofTexts "s.thrift" (some (String.join (List.replicate n "d/../"))) none)).result =
      .error (.file .tooDeep) := by
  have hstat : emptySchemaTree.stat (Path.ofString "s.thrift").text = .ok (.file []) := rfl
  have hopens : Opens {} emptySchemaTree (.ofTexts "s.thrift" (some (String.join (List.replicate n "d/../"))) none)
      .standard [] := ⟨rfl, hstat, by decide⟩
  have hburied := buried_zigzag n hdeep hshort emptySchemaTree rfl rfl
  have hsound := sound_zigzag n
  rw [← output_zigzag] at hburied hsound
  exact (result_eq_tooDeep_iff hsound hopens).2 hburied

/-- A fault that a conversion does not report as its own: too many directories are missing. -/
theorem run_not_reported :
    (∀ depth ≤ 1000,
      (run depth {} emptySchemaTree (.ofTexts "s.thrift" (some (String.join (List.replicate 550 "d/../"))) none)).result =
        .error (.file .tooDeep)) ∧ (ConversionFault.file .tooDeep).isReported = false :=
  ⟨fun _ hdepth ↦ run_zigzag 550 (by omega) (by decide), rfl⟩

end Conversion

end SchemaDdl
