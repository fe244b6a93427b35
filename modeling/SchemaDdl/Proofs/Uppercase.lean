import SchemaDdl.Text.Uppercase

namespace SchemaDdl.Text

variable {p q : Run} {runs : List CaseRun} {table : List (Nat × List Nat)} {n code : Nat} {c d : Char}

theorem toNat_ofNat_eq_or (n : Nat) : (Char.ofNat n).toNat = n ∨ (Char.ofNat n).toNat = 0 := by
  unfold Char.ofNat
  by_cases h : n.isValidChar
  · left
    rw [dif_pos h]
    rfl
  · right
    rw [dif_neg h]
    rfl

theorem Run.mem_iff : p.mem n ↔ p.first ≤ n ∧ n ≤ p.last ∧ (n - p.first) % p.stride = 0 := by
  simp [Run.mem, and_assoc]

def Run.single (n : Nat) : Run := ⟨n, n, 1⟩

theorem Run.mem_single (n : Nat) : (single n).mem n := by
  simp [mem_iff, single]

theorem inRuns_cons_of_le {qs : List Run} (h : q.first ≤ n) : inRuns (q :: qs) n = (q.mem n || inRuns qs n) := by
  rw [inRuns, if_neg (Nat.not_lt.2 h)]

/-- The upper-case code points of a run. -/
def CaseRun.images (r : CaseRun) : Run := ⟨r.image, r.image + (r.run.last - r.run.first), r.run.stride⟩

def imageRuns : List Run :=
  uppercaseRuns.map CaseRun.images ++ uppercaseExpansions.flatMap fun e ↦ e.2.map .single

theorem image?_eq_some (h : image? runs n = some code) :
    inRuns (runs.map CaseRun.run) n ∧ ∃ r ∈ runs, r.images.mem code := by
  fun_induction image? runs n with
  | case1 => cases h
  | case2 => cases h
  | case3 r rs n hlt hmem =>
    obtain rfl := Option.some.inj h
    refine ⟨?_, r, by simp, ?_⟩
    · rw [List.map_cons, inRuns_cons_of_le (Nat.not_lt.1 hlt), hmem, Bool.true_or]
    · obtain ⟨hfirst, hlast, hstride⟩ := Run.mem_iff.1 hmem
      refine Run.mem_iff.2 ⟨Nat.le_add_right _ _, ?_, ?_⟩
      · simp only [CaseRun.images]
        omega
      · simpa only [CaseRun.images, Nat.add_sub_cancel_left] using hstride
  | case4 r rs n hlt hmem ih =>
    obtain ⟨hin, q, hq, hcode⟩ := ih h
    refine ⟨?_, q, .tail _ hq, hcode⟩
    rw [List.map_cons, inRuns_cons_of_le (Nat.not_lt.1 hlt), hin, Bool.or_true]

theorem expansion?_eq_some {codes : List Nat} (h : expansion? table n = some codes) :
    inRuns (table.map fun e ↦ .single e.1) n ∧ (n, codes) ∈ table := by
  fun_induction expansion? table n with
  | case1 => cases h
  | case2 => cases h
  | case3 e es hlt =>
    obtain rfl := Option.some.inj h
    refine ⟨?_, by simp⟩
    rw [List.map_cons, inRuns_cons_of_le (Nat.le_refl e.1), Run.mem_single, Bool.true_or]
  | case4 e es n hlt hne ih =>
    obtain ⟨hin, hmem⟩ := ih h
    refine ⟨?_, .tail _ hmem⟩
    rw [List.map_cons, inRuns_cons_of_le (Nat.not_lt.1 hlt), hin, Bool.or_true]

theorem upperChar_cases (h : d ∈ upperChar c) :
    d = c ∧ upperChar c = [c] ∨ ∃ p ∈ imageRuns, ∃ n, p.mem n ∧ d = Char.ofNat n := by
  unfold upperChar at h ⊢
  cases he : expansion? uppercaseExpansions c.toNat with
  | some codes =>
    rw [he] at h
    obtain ⟨n, hn, rfl⟩ := List.mem_map.1 h
    refine .inr ⟨.single n, List.mem_append_right _ ?_, n, Run.mem_single n, rfl⟩
    exact List.mem_flatMap.2 ⟨_, (expansion?_eq_some he).2, List.mem_map_of_mem hn⟩
  | none =>
    cases hi : image? uppercaseRuns c.toNat with
    | some code =>
      simp only [he, hi, List.mem_singleton] at h
      obtain ⟨-, r, hr, hcode⟩ := image?_eq_some hi
      exact .inr ⟨r.images, List.mem_append_left _ (List.mem_map_of_mem hr), code, hcode, h⟩
    | none =>
      simp only [he, hi, List.mem_singleton] at h
      exact .inl ⟨h, rfl⟩

/-- Whether no member of `p` is in an ascending list of runs. A run that overlaps with `p` has to alternate with it. -/
def Run.apartFrom (p : Run) : List Run → Bool
  | [] => true
  | q :: qs =>
    Nat.blt p.last q.first ||
      ((Nat.blt q.last p.first ||
        (q.stride == 2 && (p.stride == 2 || p.first == p.last) && (p.first + q.first) % 2 == 1)) && p.apartFrom qs)

theorem Run.inRuns_of_apartFrom {qs : List Run} (h : p.apartFrom qs) (hn : p.mem n) : inRuns qs n = false := by
  obtain ⟨hfirst, hlast, hstride⟩ := mem_iff.1 hn
  induction qs with
  | nil => rfl
  | cons q qs ih =>
    simp only [apartFrom, Bool.or_eq_true, Bool.and_eq_true, Nat.blt_eq, beq_iff_eq] at h
    by_cases hlt : n < q.first
    · rw [inRuns, if_pos hlt]
    rcases h with hbefore | ⟨hapart, hqs⟩
    · omega
    rw [inRuns_cons_of_le (Nat.not_lt.1 hlt), ih hqs, Bool.or_false, ← Bool.not_eq_true, mem_iff]
    intro ⟨hqfirst, hqlast, hqstride⟩
    rcases hapart with hbehind | ⟨⟨htwo, hp | hp⟩, hodd⟩
    · omega
    · rw [htwo] at hqstride
      rw [hp] at hstride
      omega
    · rw [htwo] at hqstride
      omega

theorem imageRuns_apartFrom : (imageRuns.all fun p ↦ p.apartFrom (uppercaseRuns.map CaseRun.run)) = true ∧
    (imageRuns.all fun p ↦ p.apartFrom (uppercaseExpansions.map fun e ↦ .single e.1)) = true := by
  decide +kernel

theorem upperChar_eq_self (hi : inRuns (uppercaseRuns.map CaseRun.run) c.toNat = false)
    (he : inRuns (uppercaseExpansions.map fun e ↦ .single e.1) c.toNat = false) : upperChar c = [c] := by
  unfold upperChar
  cases hexpansion : expansion? uppercaseExpansions c.toNat with
  | some codes => simp [(expansion?_eq_some hexpansion).1] at he
  | none =>
    cases himage : image? uppercaseRuns c.toNat with
    | some code => simp [(image?_eq_some himage).1] at hi
    | none => rfl

theorem upperChar_of_mem (h : d ∈ upperChar c) : upperChar d = [d] := by
  obtain ⟨rfl, hc⟩ | ⟨p, hp, n, hn, rfl⟩ := upperChar_cases h
  · exact hc
  obtain ⟨hruns, hexpansions⟩ := imageRuns_apartFrom
  have hi := Run.inRuns_of_apartFrom (List.all_eq_true.1 hruns p hp) hn
  have he := Run.inRuns_of_apartFrom (List.all_eq_true.1 hexpansions p hp) hn
  obtain hcode | hcode := toNat_ofNat_eq_or n
  · rw [← hcode] at hi he
    simpa only [Char.ofNat_toNat] using upperChar_eq_self hi he
  · have hzero : Char.ofNat n = Char.ofNat 0 := by rw [← hcode, Char.ofNat_toNat]
    rw [hzero]
    decide

theorem upperChar_of_mem_upper {s : List Char} (h : d ∈ upper s) : upperChar d = [d] := by
  obtain ⟨c, -, hd⟩ := List.mem_flatMap.1 h
  exact upperChar_of_mem hd

theorem upper_eq_self {s : List Char} (h : ∀ c ∈ s, upperChar c = [c]) : upper s = s := by
  induction s with
  | nil => rfl
  | cons c cs ih =>
    obtain ⟨hc, hcs⟩ := List.forall_mem_cons.1 h
    have hupper := ih hcs
    rw [upper] at hupper ⊢
    rw [List.flatMap_cons, hc, hupper, List.singleton_append]

end SchemaDdl.Text
