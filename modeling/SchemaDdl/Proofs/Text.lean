import SchemaDdl.Text.LineEnd

namespace SchemaDdl.Text

/-- No character of the text has the property. -/
def Free (p : Char → Bool) (s : String) : Prop := ∀ c ∈ s.toList, p c = false

-- Named here, since there may be an instance that searches all characters.
instance (p : Char → Bool) (s : String) : Decidable (Free p s) := List.decidableBAll (fun c ↦ p c = false) s.toList

theorem Free.append {p : Char → Bool} {s t : String} (hs : Free p s) (ht : Free p t) : Free p (s ++ t) := by
  intro c hc
  rw [String.toList_append, List.mem_append] at hc
  obtain hc | hc := hc
  · exact hs c hc
  · exact ht c hc

variable {p : Char → Bool} {a s t : List Char} {sep : Char}

theorem dropTail_eq_self (h : ∀ c, s.getLast? = some c → p c = false) : dropTail p s = s := by
  unfold dropTail
  cases hr : s.reverse with
  | nil => simpa using hr.symm
  | cons c cs =>
    have hc : p c = false := h c (by rw [← List.head?_reverse, hr]; rfl)
    rw [List.dropWhile_cons_of_neg (by simp [hc]), ← hr, List.reverse_reverse]

theorem not_of_getLast?_dropTail {c : Char} (h : (dropTail p s).getLast? = some c) : p c = false := by
  have hhead := List.head?_dropWhile_not p s.reverse
  rw [dropTail, List.getLast?_reverse] at h
  rw [h] at hhead
  exact hhead

theorem dropTail_append_of_pos {tail : List Char} (h : ∀ c ∈ tail, p c) : dropTail p (s ++ tail) = dropTail p s := by
  unfold dropTail
  rw [List.reverse_append, List.dropWhile_append_of_pos]
  intro c hc
  exact h c (List.mem_reverse.1 hc)

theorem exists_dropTail_append (p : Char → Bool) (s : List Char) :
    ∃ tail, s = dropTail p s ++ tail ∧ ∀ c ∈ tail, p c := by
  refine ⟨(s.reverse.takeWhile p).reverse, ?_, ?_⟩
  · rw [dropTail, ← List.reverse_append, List.takeWhile_append_dropWhile, List.reverse_reverse]
  · intro c hc
    exact List.all_eq_true.1 List.all_takeWhile c (List.mem_reverse.1 hc)

theorem dropTail_append (h : ∀ c, s.getLast? = some c → p c = false) (t : List Char) :
    dropTail p (s ++ t) = s ++ dropTail p t := by
  obtain ⟨tail, ht, htail⟩ := exists_dropTail_append p t
  have hlast : ∀ c, (s ++ dropTail p t).getLast? = some c → p c = false := by
    intro c hc
    rw [List.getLast?_append, Option.or_eq_some_iff] at hc
    rcases hc with hc | ⟨-, hc⟩
    · exact not_of_getLast?_dropTail hc
    · exact h c hc
  calc dropTail p (s ++ t) = dropTail p (s ++ dropTail p t ++ tail) := by rw [List.append_assoc, ← ht]
    _ = dropTail p (s ++ dropTail p t) := dropTail_append_of_pos htail
    _ = s ++ dropTail p t := dropTail_eq_self hlast

theorem dropLastIf_append_last (c : Char) (s : List Char) :
    dropLastIf c s ++ (if s.getLast? = some c then [c] else []) = s := by
  unfold dropLastIf
  by_cases h : s.getLast? = some c
  · rw [if_pos h, if_pos h]
    obtain ⟨t, rfl⟩ := List.getLast?_eq_some_iff.1 h
    rw [List.dropLast_concat]
  · rw [if_neg h, if_neg h, List.append_nil]

theorem dropLastIf_cases (c : Char) (s : List Char) :
    s = dropLastIf c s ++ [c] ∨ s.getLast? ≠ some c ∧ dropLastIf c s = s := by
  have hs := dropLastIf_append_last c s
  by_cases h : s.getLast? = some c
  · rw [if_pos h] at hs
    exact .inl hs.symm
  · rw [if_neg h, List.append_nil] at hs
    exact .inr ⟨h, hs⟩

/-- Neither the first nor the last character of `s` has the property. -/
def Tight (p : Char → Bool) (s : List Char) : Prop :=
  (∀ c, s.head? = some c → p c = false) ∧ ∀ c, s.getLast? = some c → p c = false

theorem tight_of_forall (h : ∀ c ∈ s, p c = false) : Tight p s :=
  ⟨fun c hc ↦ h c (List.mem_of_head? hc), fun c hc ↦ h c (List.mem_of_getLast? hc)⟩

theorem Tight.append (hs : Tight p s) (ht : Tight p t) (hsne : s ≠ []) (htne : t ≠ []) (m : List Char) :
    Tight p (s ++ m ++ t) := by
  refine ⟨?_, ?_⟩
  · intro c hc
    obtain ⟨d, ds, rfl⟩ := List.exists_cons_of_ne_nil hsne
    exact hs.1 c hc
  · intro c hc
    rw [List.getLast?_append, Option.or_of_isSome (List.getLast?_isSome.2 htne)] at hc
    exact ht.2 c hc

theorem tight_dropEnds : Tight p (dropEnds p s) := by
  refine ⟨?_, ?_⟩
  · intro c hc
    have hsuffix := List.dropWhile_suffix p (l := (s.dropWhile p).reverse)
    rw [← List.reverse_prefix, List.reverse_reverse] at hsuffix
    obtain ⟨more, hmore⟩ : dropEnds p s <+: s.dropWhile p := hsuffix
    have hhead := List.head?_dropWhile_not p s
    rw [← hmore, List.head?_append, hc] at hhead
    exact hhead
  · intro c hc
    exact not_of_getLast?_dropTail hc

theorem tight_of_dropEnds_eq_self (h : dropEnds p s = s) : Tight p s := by
  have htight : Tight p (dropEnds p s) := tight_dropEnds
  rwa [h] at htight

theorem dropEnds_append (ha : ∀ c ∈ a, p c) (hs : Tight p s) : dropEnds p (a ++ s) = s := by
  unfold dropEnds
  rw [List.dropWhile_append_of_pos ha]
  cases s with
  | nil => rfl
  | cons c cs =>
    rw [List.dropWhile_cons_of_neg (by simp [hs.1 c rfl])]
    exact dropTail_eq_self hs.2

theorem pieces_of_not_mem (h : sep ∉ s) : pieces sep s = [s] := by
  induction s with
  | nil => rfl
  | cons c cs ih =>
    simp only [List.mem_cons, not_or] at h
    rw [pieces, if_neg (Ne.symm h.1), ih h.2]

theorem pieces_append_cons (h : sep ∉ s) (t : List Char) : pieces sep (s ++ sep :: t) = s :: pieces sep t := by
  induction s with
  | nil => simp [pieces]
  | cons c cs ih =>
    simp only [List.mem_cons, not_or] at h
    rw [List.cons_append, pieces, if_neg (Ne.symm h.1), ih h.2]

theorem pieces_append_singleton (h : sep ∉ s) (t : List Char) :
    pieces sep (s ++ ([sep] ++ t)) = s :: pieces sep t :=
  pieces_append_cons h t

theorem pieces_flatMap {lines : List (List Char)} (h : ∀ l ∈ lines, sep ∉ l) :
    pieces sep (lines.flatMap (· ++ [sep])) = lines ++ [[]] := by
  induction lines with
  | nil => rfl
  | cons l ls ih =>
    rw [List.flatMap_cons, List.append_assoc, List.singleton_append, pieces_append_cons (h l (by simp)),
      ih (fun k hk ↦ h k (.tail _ hk)), List.cons_append]

theorem sep_not_mem_of_mem_pieces {w : List Char} (h : w ∈ pieces sep s) : sep ∉ w := by
  induction s generalizing w with
  | nil =>
    rw [pieces, List.mem_singleton] at h
    simp [h]
  | cons d ds ih =>
    rw [pieces] at h
    split at h
    · obtain rfl | h := List.mem_cons.1 h
      · simp
      · exact ih h
    next hd =>
      split at h
      next hds =>
        rw [List.mem_singleton] at h
        simp [h, Ne.symm hd]
      next v vs hds =>
        obtain rfl | h := List.mem_cons.1 h
        · have hv : sep ∉ v := ih (by simp [hds])
          simpa [Ne.symm hd] using hv
        · exact ih (by simp [hds, h])

theorem pieces_ne_nil : pieces sep s ≠ [] := by
  cases s with
  | nil => simp [pieces]
  | cons d ds =>
    rw [pieces]
    split
    · simp
    · split <;> simp

theorem pieces_concat : pieces sep (s ++ [sep]) = pieces sep s ++ [[]] := by
  induction s with
  | nil => simp [pieces]
  | cons d ds ih =>
    rw [List.cons_append, pieces, pieces, ih]
    split
    · rfl
    · cases hds : pieces sep ds with
      | nil => exact absurd hds pieces_ne_nil
      | cons v vs => rfl

theorem joinReturns_cons (c : Char) (s : List Char) :
    joinReturns (c :: s) =
      if c = '\r' then (if s.head? = some '\n' then joinReturns s else '\n' :: joinReturns s)
      else c :: joinReturns s := by
  cases s with
  | nil => by_cases hc : c = '\r' <;> simp [joinReturns, hc]
  | cons d ds =>
    -- the Boolean of the fold tells whether `d` is a line feed
    simp only [joinReturns, List.foldr_cons, List.head?_cons, Option.some.injEq]
    by_cases hd : d = '\r'
    · by_cases hc : c = '\r' <;> simp [hd, hc]
    · by_cases hc : c = '\r' <;> simp [hd, hc]

theorem joinReturns_eq_self (h : '\r' ∉ s) : joinReturns s = s := by
  induction s with
  | nil => rfl
  | cons c cs ih =>
    simp only [List.mem_cons, not_or] at h
    rw [joinReturns_cons, if_neg (Ne.symm h.1), ih h.2]

theorem linesBy_cons_of_end {c : Char} (h : p c = true) : linesBy p (c :: s) = [] :: linesBy p s := by
  simp [linesBy, h]

theorem linesBy_cons_of_not_end {c : Char} (h : p c = false) :
    linesBy p (c :: s) = (c :: (linesBy p s).headD []) :: (linesBy p s).tail := by
  unfold linesBy
  rw [List.foldr_cons, h, if_neg Bool.false_ne_true]
  generalize s.foldr _ _ = lines
  cases lines <;> rfl

theorem linesBy_append_cons {e : Char} (h : ∀ c ∈ s, p c = false) (he : p e = true) (t : List Char) :
    linesBy p (s ++ e :: t) = s :: linesBy p t := by
  induction s with
  | nil => exact linesBy_cons_of_end he
  | cons c cs ih =>
    rw [List.forall_mem_cons] at h
    rw [List.cons_append, linesBy_cons_of_not_end h.1, ih h.2]
    rfl

theorem linesBy_of_not_end (h : ∀ c ∈ s, p c = false) (hne : s ≠ []) : linesBy p s = [s] := by
  induction s with
  | nil => exact absurd rfl hne
  | cons c cs ih =>
    rw [List.forall_mem_cons] at h
    rw [linesBy_cons_of_not_end h.1]
    cases cs with
    | nil => rfl
    | cons d ds =>
      rw [ih h.2 (List.cons_ne_nil d ds)]
      rfl

theorem intercalate_cons_cons (e : Char) (l k : List Char) (ks : List (List Char)) :
    List.intercalate [e] (l :: k :: ks) = l ++ e :: List.intercalate [e] (k :: ks) := by
  simp [List.intercalate]

theorem pieces_intercalate {words : List (List Char)} (h : ∀ w ∈ words, sep ∉ w) (hne : words ≠ []) :
    pieces sep (List.intercalate [sep] words) = words := by
  induction words with
  | nil => exact absurd rfl hne
  | cons w ws ih =>
    cases ws with
    | nil => simpa [List.intercalate] using pieces_of_not_mem (h w (by simp))
    | cons v vs =>
      rw [intercalate_cons_cons, pieces_append_cons (h w (by simp)), ih (fun u hu ↦ h u (.tail _ hu)) (by simp)]

theorem intercalate_pieces (sep : Char) (s : List Char) : List.intercalate [sep] (pieces sep s) = s := by
  induction s with
  | nil => rfl
  | cons c cs ih =>
    have hne : pieces sep cs ≠ [] := pieces_ne_nil
    obtain ⟨w, ws, hws⟩ := List.exists_cons_of_ne_nil hne
    rw [hws] at ih
    rw [pieces, hws]
    split
    next hc => rw [intercalate_cons_cons, ih, hc, List.nil_append]
    next hc =>
      cases ws with
      | nil => simpa [List.intercalate] using ih
      | cons v vs =>
        rw [intercalate_cons_cons] at ih ⊢
        rw [List.cons_append, ih]

theorem linesBy_intercalate {e : Char} (he : p e = true) {lines : List (List Char)}
    (h : ∀ l ∈ lines, ∀ c ∈ l, p c = false) :
    linesBy p (List.intercalate [e] lines) = if lines.getLast? = some [] then lines.dropLast else lines := by
  induction lines with
  | nil => rfl
  | cons l ls ih =>
    cases ls with
    | nil =>
      cases l with
      | nil => rfl
      | cons c cs => simpa [List.intercalate] using linesBy_of_not_end (h (c :: cs) (by simp)) (by simp)
    | cons k ks =>
      rw [intercalate_cons_cons, linesBy_append_cons (h l (by simp)) he, ih (fun m hm ↦ h m (.tail _ hm)),
        List.getLast?_cons_cons, List.dropLast_cons_cons]
      split <;> rfl

theorem mem_intercalate {e c : Char} {lines : List (List Char)} (h : c ∈ List.intercalate [e] lines) :
    c = e ∨ ∃ l ∈ lines, c ∈ l := by
  induction lines with
  | nil => simp [List.intercalate] at h
  | cons l ls ih =>
    cases ls with
    | nil => exact .inr ⟨l, by simp, by simpa [List.intercalate] using h⟩
    | cons k ks =>
      rw [intercalate_cons_cons, List.mem_append, List.mem_cons] at h
      obtain h | h | h := h
      · exact .inr ⟨l, by simp, h⟩
      · exact .inl h
      · obtain h | ⟨m, hm, hc⟩ := ih h
        · exact .inl h
        · exact .inr ⟨m, .tail _ hm, hc⟩

theorem splitLines_intercalate {lines : List String} (h : ∀ l ∈ lines, Free isLineEnd l) :
    splitLines ("\n".intercalate lines) = if lines.getLast? = some "" then lines.dropLast else lines := by
  have hl : ∀ l ∈ lines.map String.toList, ∀ c ∈ l, isLineEnd c = false := by
    intro l hl
    obtain ⟨m, hm, rfl⟩ := List.mem_map.1 hl
    exact h m hm
  have hr : '\r' ∉ List.intercalate ['\n'] (lines.map String.toList) := by
    intro hmem
    obtain hc | ⟨l, hlm, hc⟩ := mem_intercalate hmem
    · exact absurd hc (by decide)
    · exact absurd (hl l hlm _ hc) (by decide)
  have hlast : (lines.map String.toList).getLast? = some [] ↔ lines.getLast? = some "" := by
    simp [List.getLast?_map, Option.map_eq_some_iff]
  unfold splitLines
  rw [String.toList_intercalate]
  change (linesBy isLineEnd (joinReturns (List.intercalate ['\n'] _))).map String.ofList = _
  rw [joinReturns_eq_self hr, linesBy_intercalate (by decide) hl]
  by_cases he : lines.getLast? = some ""
  · rw [if_pos (hlast.2 he), if_pos he, ← List.map_dropLast, List.map_map]
    simp
  · rw [if_neg (mt hlast.1 he), if_neg he, List.map_map]
    simp

theorem dropTerminator_eq_self {s : String} (h : Free isLineEnd s) : dropTerminator s = s := by
  unfold dropTerminator
  rw [dropTail_eq_self, String.ofList_toList]
  intro c hc
  have hl := h c (List.mem_of_getLast? hc)
  by_cases hr : c = '\r'
  · subst hr
    exact absurd hl (by decide)
  by_cases hn : c = '\n'
  · subst hn
    exact absurd hl (by decide)
  simp [hr, hn]

end SchemaDdl.Text
