import SchemaDdl.Proofs.LineEnds
import SchemaDdl.Proofs.Utf8
import SchemaDdl.Text.LineSupply

namespace SchemaDdl.Text

section Returns

variable {s t : List Char} {c : Char}

theorem mem_joinReturns (h : c ∈ joinReturns s) : c ≠ '\r' ∧ (c = '\n' ∨ c ∈ s) := by
  induction s with
  | nil => cases h
  | cons d s ih =>
    rw [joinReturns_cons] at h
    have hrest (h : c ∈ joinReturns s) : c ≠ '\r' ∧ (c = '\n' ∨ c ∈ d :: s) := ⟨(ih h).1, (ih h).2.imp_right (.tail d)⟩
    split at h
    · split at h
      · exact hrest h
      · obtain rfl | h := List.mem_cons.1 h
        · exact ⟨by decide, .inl rfl⟩
        · exact hrest h
    · next hd =>
      obtain rfl | h := List.mem_cons.1 h
      · exact ⟨hd, .inr (.head s)⟩
      · exact hrest h

/-- A text may be cut anywhere but between a carriage return and its line feed. -/
theorem joinReturns_append (h : s.getLast? = some '\r' → t.head? ≠ some '\n') :
    joinReturns (s ++ t) = joinReturns s ++ joinReturns t := by
  induction s with
  | nil => rfl
  | cons c s ih =>
    cases s with
    | nil =>
      rw [List.singleton_append, joinReturns_cons, joinReturns_cons]
      by_cases hc : c = '\r'
      · rw [if_pos hc, if_pos hc, if_neg (h (by simp [hc]))]
        rfl
      · rw [if_neg hc, if_neg hc]
        rfl
    | cons d s =>
      rw [List.getLast?_cons_cons] at h
      rw [List.cons_append, joinReturns_cons, joinReturns_cons, ih h]
      by_cases hc : c = '\r'
      · by_cases hd : d = '\n'
        · simp [hc, hd]
        · simp [hc, hd]
      · simp [hc]

end Returns

section Blocks

/-- The text has been read so far: what was delivered is the text less the carriage return held back. -/
def Decoding.HasRead (d : Decoding) (s : List Char) : Prop :=
  ∃ t, s = t ++ (if d.held then ['\r'] else []) ∧ d.text = joinReturns t ∧ (d.held = false → t.getLast? ≠ some '\r')

/-- The state after the bytes: that of reading them at once. -/
def Decoding.After (d : Decoding) (bytes : List UInt8) : Prop :=
  d.rest.toOption = (Utf8.scan 0 none bytes).rest.toOption ∧
    ∀ r, d.rest = .ok r → d.HasRead (Utf8.scan 0 none bytes).text

variable {d : Decoding} {bytes block : List UInt8} {s t : List Char}

theorem hasRead_append (h : d.HasRead s) (t : List Char) (r : Except Utf8.Fault (Option Utf8.Pending)) :
    Decoding.HasRead ⟨joinReturns (dropLastIf '\r' (if d.held then '\r' :: t else t)) :: d.chunks,
      (if d.held then '\r' :: t else t).getLast? = some '\r', r⟩ (s ++ t) := by
  obtain ⟨u, rfl, htext, hlast⟩ := h
  have hparts : u ++ (if d.held then ['\r'] else []) ++ t = u ++ if d.held then '\r' :: t else t := by
    cases d.held <;> simp
  rw [hparts]
  -- the return that `u` may end in is followed by the one held back
  have hcut : u.getLast? = some '\r' → (if d.held then '\r' :: t else t).head? ≠ some '\n' := by
    intro hu
    cases hheld : d.held with
    | false => exact absurd hu (hlast hheld)
    | true => simp
  have hend : u.getLast? = some '\r' → (if d.held then '\r' :: t else t) ≠ [] := by
    intro hu
    cases hheld : d.held with
    | false => exact absurd hu (hlast hheld)
    | true => simp
  generalize (if d.held then '\r' :: t else t) = v at hcut hend ⊢
  have hv := dropLastIf_append_last '\r' v
  refine ⟨u ++ dropLastIf '\r' v, ?_, ?_, ?_⟩
  · simp only [decide_eq_true_eq]
    rw [List.append_assoc, hv]
  · rw [joinReturns_append, ← htext]
    · simp [Decoding.text]
    · intro hu hhead
      apply hcut hu
      rw [← hv, List.head?_append, hhead]
      rfl
  · intro hne hlast'
    simp only [decide_eq_false_iff_not] at hne
    rw [dropLastIf, if_neg hne] at hlast'
    cases v with
    | nil => exact hend (by simpa using hlast') rfl
    | cons c cs => exact hne (by simpa [List.getLast?_append] using hlast')

theorem joinReturns_of_hasRead (h : d.HasRead s) : joinReturns s = d.text ++ if d.held then ['\n'] else [] := by
  obtain ⟨t, rfl, htext, -⟩ := h
  rw [htext, joinReturns_append]
  · cases d.held <;> rfl
  · intro _
    cases d.held <;> simp

theorem after_push (h : d.After bytes) (block : List UInt8) : (d.push block).After (bytes ++ block) := by
  obtain ⟨hrest, hread⟩ := h
  unfold Decoding.After
  rw [Utf8.scan_append]
  cases hd : d.rest with
  | error f =>
    rw [hd] at hrest
    have hpush : d.push block = d := by simp only [Decoding.push, hd]
    rw [hpush, hd]
    cases hs : (Utf8.scan 0 none bytes).rest with
    | error g => exact ⟨rfl, fun r hr ↦ by cases hr⟩
    | ok r => simp [hs, Except.toOption] at hrest
  | ok r =>
    rw [hd] at hrest
    cases hs : (Utf8.scan 0 none bytes).rest with
    | error g => simp [hs, Except.toOption] at hrest
    | ok r' =>
      obtain rfl : r = r' := by simpa [hs, Except.toOption] using hrest
      obtain ⟨htext, hopt⟩ := Utf8.scan_position ((r.map Utf8.Pending.width).getD 0) (0 + bytes.length) r block
      simp only [Decoding.push, hd]
      rw [← htext, ← hopt]
      cases (Utf8.scan ((r.map Utf8.Pending.width).getD 0) r block).rest with
      | error f => exact ⟨rfl, fun r hr ↦ by cases hr⟩
      | ok r' => exact ⟨rfl, fun _ _ ↦ hasRead_append (hread r hd) _ _⟩

theorem after_foldl_push (h : d.After bytes) (bs : List (List UInt8)) :
    (bs.foldl Decoding.push d).After (bytes ++ bs.flatten) := by
  induction bs generalizing d bytes with
  | nil => simpa using h
  | cons b bs ih =>
    rw [List.foldl_cons, List.flatten_cons, ← List.append_assoc]
    exact ih (after_push h b)

theorem flatten_blocks {fuel : Nat} (h : bytes.length ≤ fuel * blockSize) : (blocks fuel bytes).flatten = bytes := by
  fun_induction blocks fuel bytes with
  | case1 bytes => simpa using h
  | case2 => rfl
  | case3 fuel bytes hne ih =>
    rw [Nat.succ_mul] at h
    rw [List.flatten_cons, ih, List.take_append_drop]
    rw [List.length_drop]
    omega

theorem after_decodeBlocks (bytes : List UInt8) : (decodeBlocks bytes).After bytes := by
  have hfuel : bytes.length ≤ (bytes.length / blockSize + 1) * blockSize :=
    Nat.le_of_lt (Nat.lt_mul_of_div_lt (Nat.lt_succ_self _) (by decide))
  have hstart : Decoding.After {} [] := ⟨rfl, fun _ _ ↦ ⟨[], rfl, rfl, fun _ ↦ nofun⟩⟩
  have hrun := after_foldl_push hstart (blocks (bytes.length / blockSize + 1) bytes)
  rw [flatten_blocks hfuel] at hrun
  exact hrun

end Blocks

section Supply

variable {bytes : List UInt8} {s tail : List Char} {lines : List (List Char)}

/-- The lines of a text file, without their ends: a line feed, a carriage return or both end a line, and nothing else
does. -/
def fileLines (content : String) : List String :=
  (linesBy (· = '\n') (joinReturns content.toList)).map String.ofList

theorem exists_ended_lines (s : List Char) :
    ∃ (lines : List (List Char)) (tail : List Char),
      s = lines.flatMap (· ++ ['\n']) ++ tail ∧ (∀ l ∈ lines, '\n' ∉ l) ∧ '\n' ∉ tail := by
  induction s with
  | nil => exact ⟨[], [], rfl, nofun, nofun⟩
  | cons c s ih =>
    obtain ⟨lines, tail, rfl, hlines, htail⟩ := ih
    by_cases hc : c = '\n'
    · refine ⟨[] :: lines, tail, by simp [hc], ?_, htail⟩
      simpa using hlines
    cases lines with
    | nil => exact ⟨[], c :: tail, by simp, nofun, by simp [Ne.symm hc, htail]⟩
    | cons l ls =>
      refine ⟨(c :: l) :: ls, tail, by simp, ?_, htail⟩
      simp only [List.forall_mem_cons] at hlines ⊢
      exact ⟨by simp [Ne.symm hc, hlines.1], hlines.2⟩

theorem linesBy_ended_lines (hlines : ∀ l ∈ lines, '\n' ∉ l) (htail : '\n' ∉ tail) :
    linesBy (· = '\n') (lines.flatMap (· ++ ['\n']) ++ tail) = lines ++ if tail.isEmpty then [] else [tail] := by
  induction lines with
  | nil =>
    cases tail with
    | nil => rfl
    | cons c cs => exact linesBy_of_not_end (fun d hd ↦ by simp [ne_of_mem_of_not_mem hd htail]) (by simp)
  | cons l ls ih =>
    rw [List.forall_mem_cons] at hlines
    rw [List.flatMap_cons, List.append_assoc, List.append_assoc, List.singleton_append,
      linesBy_append_cons (fun d hd ↦ by simp [ne_of_mem_of_not_mem hd hlines.1]) (by simp), ih hlines.2,
      List.cons_append]

theorem getLast?_flatMap_feed {c : Char} (h : (lines.flatMap (· ++ ['\n'])).getLast? = some c) : c = '\n' := by
  obtain rfl | ⟨ls, l, rfl⟩ := List.eq_nil_or_concat lines
  · cases h
  · rw [List.concat_eq_append, List.flatMap_append, List.flatMap_singleton, ← List.append_assoc, List.getLast?_concat] at h
    exact (Option.some.inj h).symm

theorem endedLines_ended_lines (hlines : ∀ l ∈ lines, '\n' ∉ l) (htail : '\n' ∉ tail) :
    endedLines (lines.flatMap (· ++ ['\n']) ++ tail) = lines.map (· ++ ['\n']) := by
  have hdrop : dropTail (· ≠ '\n') (lines.flatMap (· ++ ['\n']) ++ tail) = lines.flatMap (· ++ ['\n']) := by
    rw [dropTail_append_of_pos (fun d hd ↦ by simp [ne_of_mem_of_not_mem hd htail])]
    exact dropTail_eq_self (fun c hc ↦ by simp [getLast?_flatMap_feed hc])
  rw [endedLines, hdrop, linesBy_flatMap (by simp)]
  intro l hl d hd
  simpa using ne_of_mem_of_not_mem hd (hlines l hl)

theorem takeWhile_reverse_ended_lines (htail : '\n' ∉ tail) :
    ((lines.flatMap (· ++ ['\n']) ++ tail).reverse.takeWhile (· ≠ '\n')).reverse = tail := by
  have hstop : (lines.flatMap (· ++ ['\n'])).reverse.takeWhile (· ≠ '\n') = [] := by
    cases hr : (lines.flatMap (· ++ ['\n'])).reverse with
    | nil => rfl
    | cons c cs =>
      have hlast : (lines.flatMap (· ++ ['\n'])).getLast? = some c := by
        rw [← List.head?_reverse, hr]
        rfl
      obtain rfl := getLast?_flatMap_feed hlast
      rfl
  rw [List.reverse_append, List.takeWhile_append_of_pos, hstop, List.append_nil, List.reverse_reverse]
  intro d hd
  simpa using ne_of_mem_of_not_mem (List.mem_reverse.1 hd) htail

theorem allLines_ended_lines (hlines : ∀ l ∈ lines, '\n' ∉ l) (htail : '\n' ∉ tail) :
    allLines (lines.flatMap (· ++ ['\n']) ++ tail) =
      lines.map (· ++ ['\n']) ++ if tail.isEmpty then [] else [tail] := by
  unfold allLines
  rw [endedLines_ended_lines hlines htail, takeWhile_reverse_ended_lines htail]

theorem dropTerminator_ofList_append {l : List Char} (hr : '\r' ∉ l) (hn : '\n' ∉ l) (h : ∀ c ∈ tail, c = '\n') :
    dropTerminator (String.ofList (l ++ tail)) = String.ofList l := by
  unfold dropTerminator
  rw [String.toList_ofList, dropTail_append_of_pos (fun c hc ↦ by simp [h c hc]), dropTail_eq_self]
  intro c hc
  have hmem := List.mem_of_getLast? hc
  simp [ne_of_mem_of_not_mem hmem hr, ne_of_mem_of_not_mem hmem hn]

theorem dropTerminator_dropTerminator (s : String) : dropTerminator (dropTerminator s) = dropTerminator s := by
  unfold dropTerminator
  rw [String.toList_ofList, dropTail_eq_self]
  intro c hc
  exact not_of_getLast?_dropTail hc

theorem dropTerminator_allLines (h : '\r' ∉ s) :
    ((allLines s).map String.ofList).map dropTerminator = (linesBy (· = '\n') s).map String.ofList := by
  obtain ⟨lines, tail, rfl, hlines, htail⟩ := exists_ended_lines s
  have hr (l : List Char) (hl : l ∈ lines) : '\r' ∉ l := by
    intro hmem
    exact h (List.mem_append_left _ (List.mem_flatMap.2 ⟨l, hl, List.mem_append_left _ hmem⟩))
  rw [allLines_ended_lines hlines htail, linesBy_ended_lines hlines htail]
  simp only [List.map_append, List.map_map]
  congr 1
  · refine List.map_congr_left fun l hl ↦ ?_
    exact dropTerminator_ofList_append (hr l hl) (hlines l hl) (by simp)
  · split
    · rfl
    · have ht := dropTerminator_ofList_append (mt (List.mem_append_right _) h) htail (List.forall_mem_nil (· = '\n'))
      rw [List.append_nil] at ht
      exact congrArg (fun t ↦ [t]) ht

theorem ofBytes_encode (content : String) :
    LineSupply.ofBytes (Utf8.encode content.toList) =
      ⟨(allLines (joinReturns content.toList)).map String.ofList, none⟩ := by
  obtain ⟨hrest, hread⟩ := after_decodeBlocks (Utf8.encode content.toList)
  rw [Utf8.scan_encode] at hrest hread
  unfold LineSupply.ofBytes
  cases hd : (decodeBlocks (Utf8.encode content.toList)).rest with
  | error f => simp [hd, Except.toOption] at hrest
  | ok r =>
    obtain rfl : r = none := by simpa [hd, Except.toOption] using hrest
    simp only [hd, ← joinReturns_of_hasRead (hread none hd)]

theorem exists_encode_of_fault?_eq_none (h : (LineSupply.ofBytes bytes).fault? = none) :
    ∃ content : String, bytes = Utf8.encode content.toList := by
  obtain ⟨hrest, -⟩ := after_decodeBlocks bytes
  simp only [LineSupply.ofBytes] at h
  split at h
  next hd =>
    rw [hd] at hrest
    have hs : (Utf8.scan 0 none bytes).rest = .ok none := by
      cases hs : (Utf8.scan 0 none bytes).rest with
      | error f => simp [hs, Except.toOption] at hrest
      | ok r => simpa [hs, Except.toOption] using hrest.symm
    obtain ⟨rest, heq, rfl⟩ := Utf8.eq_encode_of_scan (show Utf8.LeftOpen none [] from rfl) hs
    exact ⟨String.ofList (Utf8.scan 0 none bytes).text, by simpa using heq⟩
  next => cases h
  next => cases h

theorem linesBy_congr {p q : Char → Bool} (h : ∀ c ∈ s, p c = q c) : linesBy p s = linesBy q s := by
  induction s with
  | nil => rfl
  | cons c s ih =>
    rw [List.forall_mem_cons] at h
    cases hq : q c with
    | true => rw [linesBy_cons_of_end (h.1.trans hq), linesBy_cons_of_end hq, ih h.2]
    | false => rw [linesBy_cons_of_not_end (h.1.trans hq), linesBy_cons_of_not_end hq, ih h.2]

/-- The characters that end a line of a text held in memory, but not of a text file. -/
def memoryLineEnds : List Char :=
  ['\x0b', '\x0c', '\x1c', '\x1d', '\x1e', '\u0085', '\u2028', '\u2029']

theorem isLineEnd_iff_mem {c : Char} : isLineEnd c ↔ c = '\n' ∨ c = '\r' ∨ c ∈ memoryLineEnds := by
  rw [isLineEnd_iff_toNat]
  simp only [memoryLineEnds, List.mem_cons, List.not_mem_nil, or_false, ← Char.toNat_inj, Char.reduceToNat]
  omega

theorem fileLines_eq_splitLines {content : String} (h : Free (· ∈ memoryLineEnds) content) :
    fileLines content = splitLines content := by
  unfold fileLines splitLines
  congr 1
  refine linesBy_congr fun c hc ↦ ?_
  obtain ⟨hreturn, hmem⟩ := mem_joinReturns hc
  rw [Bool.eq_iff_iff, decide_eq_true_iff, isLineEnd_iff_mem]
  refine ⟨.inl, ?_⟩
  rintro (hfeed | hreturn' | hend)
  · exact hfeed
  · exact absurd hreturn' hreturn
  · exact hmem.resolve_right fun hc ↦ of_decide_eq_false (h c hc) hend

end Supply

end SchemaDdl.Text
