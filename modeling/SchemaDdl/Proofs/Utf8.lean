import SchemaDdl.Text.Utf8

namespace SchemaDdl.Text.Utf8

/-- The byte may follow the sequence begun so far. -/
def Pending.Takes (p : Pending) (b : UInt8) : Prop := p.surrogate = false ∧ p.low ≤ b ∧ b ≤ p.high

instance (p : Pending) (b : UInt8) : Decidable (p.Takes b) := inferInstanceAs (Decidable (_ ∧ _ ∧ _))

/-- The bytes begin the sequence. -/
inductive Begins : List UInt8 → Pending → Prop
  | lead {b : UInt8} {p : Pending} : 0x80 ≤ b → Pending.ofLead? b = some p → Begins [b] p
  | more {bytes : List UInt8} {p : Pending} {b : UInt8} :
      Begins bytes p → p.Takes b → (p.push b).owed ≠ 0 → Begins (bytes ++ [b]) (p.push b)

section Steps

variable {i j : Nat} {p q : Pending} {b : UInt8} {bytes rest : List UInt8}

theorem step_ascii (h : b < 0x80) : step i none b = .char (Char.ofNat b.toNat) := if_pos h

theorem step_lead (h : ¬b < 0x80) (hp : Pending.ofLead? b = some p) : step i none b = .more p := by
  simp only [step, if_neg h, hp]

theorem step_take (h : p.Takes b) :
    step i (some p) b =
      if (p.push b).owed = 0 then .char (Char.ofNat (p.push b).value) else .more (p.push b) := by
  have hb : (!p.surrogate) = true ∧ p.low ≤ b ∧ b ≤ p.high := by simpa [Pending.Takes] using h
  simp only [step, if_pos hb]

theorem step_refuse (h : ¬p.Takes b) : step i (some p) b = .fault (p.fault (i - p.width) .continuation) := by
  have hb : ¬((!p.surrogate) = true ∧ p.low ≤ b ∧ b ≤ p.high) := by simpa [Pending.Takes] using h
  simp only [step, if_neg hb]

theorem scan_char {r : Option Pending} {c : Char} (h : step i r b = .char c) :
    scan i r (b :: bytes) = ⟨c :: (scan (i + 1) none bytes).text, (scan (i + 1) none bytes).rest⟩ := by
  simp only [scan, h]

theorem scan_more {r : Option Pending} (h : step i r b = .more p) :
    scan i r (b :: bytes) = scan (i + 1) (some p) bytes := by
  simp only [scan, h]

theorem scan_fault {r : Option Pending} {f : Fault} (h : step i r b = .fault f) :
    scan i r (b :: bytes) = ⟨[], .error f⟩ := by
  simp only [scan, h]

theorem scan_begins (h : Begins bytes p) : scan i none (bytes ++ rest) = scan (i + bytes.length) (some p) rest := by
  induction h generalizing rest with
  | lead hb hp => exact scan_more (step_lead (UInt8.not_lt.2 hb) hp)
  | @more bytes p b h ht ho ih =>
    rw [List.append_assoc, List.singleton_append, ih, scan_more ((step_take ht).trans (if_neg ho))]
    simp [Nat.add_assoc]

/-- What comes of two parts: the second is read on from where the first leaves off. -/
theorem scan_append (i : Nat) (r : Option Pending) (xs ys : List UInt8) :
    scan i r (xs ++ ys) =
      match (scan i r xs).rest with
      | .error f => ⟨(scan i r xs).text, .error f⟩
      | .ok r' => ⟨(scan i r xs).text ++ (scan (i + xs.length) r' ys).text, (scan (i + xs.length) r' ys).rest⟩ := by
  induction xs generalizing i r with
  | nil => rfl
  | cons b xs ih =>
    have hlen : i + (b :: xs).length = i + 1 + xs.length := by
      simp only [List.length_cons]
      omega
    rw [List.cons_append, hlen]
    cases hs : step i r b with
    | char c =>
      rw [scan_char hs, scan_char hs, ih]
      cases (scan (i + 1) none xs).rest <;> rfl
    | more p => rw [scan_more hs, scan_more hs, ih]
    | fault f => rw [scan_fault hs, scan_fault hs]

theorem scan_position (i j : Nat) (r : Option Pending) (bytes : List UInt8) :
    (scan i r bytes).text = (scan j r bytes).text ∧
      (scan i r bytes).rest.toOption = (scan j r bytes).rest.toOption := by
  induction bytes generalizing i j r with
  | nil => exact ⟨rfl, rfl⟩
  | cons b bytes ih =>
    cases r with
    | none =>
      by_cases hb : b < 0x80
      · obtain ⟨htext, hrest⟩ := ih (i + 1) (j + 1) none
        rw [scan_char (step_ascii hb), scan_char (step_ascii hb)]
        exact ⟨congrArg (List.cons _) htext, hrest⟩
      · cases hp : Pending.ofLead? b with
        | some p =>
          rw [scan_more (step_lead hb hp), scan_more (step_lead hb hp)]
          exact ih (i + 1) (j + 1) (some p)
        | none => simp [scan, step, hb, hp, Except.toOption]
    | some p =>
      by_cases ht : p.Takes b
      · by_cases ho : (p.push b).owed = 0
        · obtain ⟨htext, hrest⟩ := ih (i + 1) (j + 1) none
          rw [scan_char ((step_take ht).trans (if_pos ho)), scan_char ((step_take ht).trans (if_pos ho))]
          exact ⟨congrArg (List.cons _) htext, hrest⟩
        · rw [scan_more ((step_take ht).trans (if_neg ho)), scan_more ((step_take ht).trans (if_neg ho))]
          exact ih (i + 1) (j + 1) (some (p.push b))
      · rw [scan_fault (step_refuse ht), scan_fault (step_refuse ht)]
        exact ⟨rfl, rfl⟩

end Steps

section Sequences

variable {b b₀ b₁ b₂ b₃ : UInt8} {p : Pending} {bytes : List UInt8} {c : Char}

theorem ofLead?_cases (h : Pending.ofLead? b = some p) :
    p.first = b ∧ p.width = 1 ∧ p.surrogate = false ∧
      (p.owed = 1 ∧ 0xc2 ≤ b.toNat ∧ b.toNat < 0xe0 ∧ p.value + 0xc0 = b.toNat ∧
          p.low.toNat = 0x80 ∧ p.high.toNat = 0xbf ∨
        p.owed = 2 ∧ 0xe0 ≤ b.toNat ∧ b.toNat < 0xf0 ∧ p.value + 0xe0 = b.toNat ∧
          (b.toNat = 0xe0 → p.low.toNat = 0xa0) ∧ (b.toNat ≠ 0xe0 → p.low.toNat = 0x80) ∧ p.high.toNat = 0xbf ∨
        p.owed = 3 ∧ 0xf0 ≤ b.toNat ∧ b.toNat < 0xf5 ∧ p.value + 0xf0 = b.toNat ∧
          (b.toNat = 0xf0 → p.low.toNat = 0x90) ∧ (b.toNat ≠ 0xf0 → p.low.toNat = 0x80) ∧
          (b.toNat = 0xf4 → p.high.toNat = 0x8f) ∧ (b.toNat ≠ 0xf4 → p.high.toNat = 0xbf)) := by
  simp only [Pending.ofLead?, UInt8.lt_iff_toNat_lt, ← UInt8.toNat_inj, UInt8.reduceToNat] at h
  split at h
  · cases h
  split at h
  · cases h
    refine ⟨rfl, rfl, rfl, .inl ⟨rfl, by omega, by omega, Nat.sub_add_cancel (by omega), rfl, rfl⟩⟩
  split at h
  · cases h
    refine ⟨rfl, rfl, rfl, .inr (.inl ⟨rfl, by omega, by omega, Nat.sub_add_cancel (by omega), ?_, ?_, rfl⟩)⟩
    all_goals
      intro hb
      simp [hb]
  split at h
  · cases h
    refine ⟨rfl, rfl, rfl, .inr (.inr ⟨rfl, by omega, by omega, Nat.sub_add_cancel (by omega), ?_, ?_, ?_, ?_⟩)⟩
    all_goals
      intro hb
      simp [hb]
  · cases h

theorem exists_begins_lead (h : 0xc2 ≤ b.toNat) (h' : b.toNat < 0xf5) :
    ∃ p, Pending.ofLead? b = some p ∧ Begins [b] p := by
  have hb : 0x80 ≤ b := by
    simp only [UInt8.le_iff_toNat_le, UInt8.reduceToNat]
    omega
  suffices hlead : ∃ p, Pending.ofLead? b = some p by
    obtain ⟨p, hp⟩ := hlead
    exact ⟨p, hp, .lead hb hp⟩
  simp only [Pending.ofLead?, UInt8.lt_iff_toNat_lt, UInt8.reduceToNat, if_pos h']
  rw [if_neg (by omega)]
  split
  · exact ⟨_, rfl⟩
  split
  · exact ⟨_, rfl⟩
  · exact ⟨_, rfl⟩

theorem takes_iff : p.Takes b ↔ p.surrogate = false ∧ p.low.toNat ≤ b.toNat ∧ b.toNat ≤ p.high.toNat := by
  simp only [Pending.Takes, UInt8.le_iff_toNat_le]

theorem surrogate_push : (p.push b).surrogate = false ↔ ¬(p.first.toNat = 0xed ∧ p.width = 1 ∧ 0xa0 ≤ b.toNat) := by
  simp [Pending.push, ← UInt8.toNat_inj, UInt8.le_iff_toNat_le]

theorem ofNat_eq_byte {n : Nat} (h : n = b.toNat) : UInt8.ofNat n = b := by
  rw [h, UInt8.ofNat_toNat]

theorem encodeChar_one (h : c.toNat < 0x80) : String.utf8EncodeChar c = [UInt8.ofNat c.toNat] := by
  change c.val.toNat < _ at h
  rw [String.utf8EncodeChar, if_pos (by omega)]
  rfl

theorem encodeChar_two (h : 0x80 ≤ c.toNat) (h' : c.toNat < 0x800) (h₀ : b₀.toNat = 0xc0 + c.toNat / 64)
    (h₁ : b₁.toNat = 0x80 + c.toNat % 64) : String.utf8EncodeChar c = [b₀, b₁] := by
  simp only [Char.toNat] at h h' h₀ h₁
  rw [String.utf8EncodeChar, if_neg (by omega), if_pos (by omega), ofNat_eq_byte (b := b₀) (by omega),
    ofNat_eq_byte (b := b₁) (by omega)]

theorem encodeChar_three (h : 0x800 ≤ c.toNat) (h' : c.toNat < 0x10000) (h₀ : b₀.toNat = 0xe0 + c.toNat / 4096)
    (h₁ : b₁.toNat = 0x80 + c.toNat / 64 % 64) (h₂ : b₂.toNat = 0x80 + c.toNat % 64) :
    String.utf8EncodeChar c = [b₀, b₁, b₂] := by
  simp only [Char.toNat] at h h' h₀ h₁ h₂
  rw [String.utf8EncodeChar, if_neg (by omega), if_neg (by omega), if_pos (by omega),
    ofNat_eq_byte (b := b₀) (by omega), ofNat_eq_byte (b := b₁) (by omega), ofNat_eq_byte (b := b₂) (by omega)]

theorem encodeChar_four (h : 0x10000 ≤ c.toNat) (h' : c.toNat < 0x110000) (h₀ : b₀.toNat = 0xf0 + c.toNat / 262144)
    (h₁ : b₁.toNat = 0x80 + c.toNat / 4096 % 64) (h₂ : b₂.toNat = 0x80 + c.toNat / 64 % 64)
    (h₃ : b₃.toNat = 0x80 + c.toNat % 64) : String.utf8EncodeChar c = [b₀, b₁, b₂, b₃] := by
  simp only [Char.toNat] at h h' h₀ h₁ h₂ h₃
  rw [String.utf8EncodeChar, if_neg (by omega), if_neg (by omega), if_neg (by omega),
    ofNat_eq_byte (b := b₀) (by omega), ofNat_eq_byte (b := b₁) (by omega), ofNat_eq_byte (b := b₂) (by omega),
    ofNat_eq_byte (b := b₃) (by omega)]

theorem toNat_ofNat_of_valid {n : Nat} (h : n < 0xd800 ∨ 0xdfff < n ∧ n < 0x110000) : (Char.ofNat n).toNat = n := by
  rw [Char.ofNat, dif_pos h]
  rfl

theorem owed_le_of_begins (h : Begins bytes p) : p.owed ≤ 3 := by
  induction h with
  | lead _ hp =>
    obtain ⟨-, -, -, hcases⟩ := ofLead?_cases hp
    omega
  | more _ _ _ ih => exact Nat.le_trans (Nat.sub_le _ 1) ih

theorem encodeChar_of_begins (h : Begins bytes p) (ht : p.Takes b) (ho : (p.push b).owed = 0) :
    String.utf8EncodeChar (Char.ofNat (p.push b).value) = bytes ++ [b] := by
  -- the number of bytes so far says how many the lead byte owed
  cases h with
  | @lead b₀ p _ hp =>
    obtain ⟨hf, hw, -, hcases⟩ := ofLead?_cases hp
    obtain ⟨-, hlow, hhigh⟩ := takes_iff.1 ht
    simp only [Pending.push] at ho ⊢
    have hv := toNat_ofNat_of_valid (n := p.value * 64 + (b.toNat - 0x80)) (by omega)
    apply encodeChar_two <;> rw [hv] <;> omega
  | @more _ p b₁ h ht₁ ho₁ =>
    cases h with
    | @lead b₀ p _ hp =>
      obtain ⟨hf, hw, -, hcases⟩ := ofLead?_cases hp
      obtain ⟨-, hlow₁, hhigh₁⟩ := takes_iff.1 ht₁
      obtain ⟨hs, hlow, hhigh⟩ := takes_iff.1 ht
      rw [surrogate_push, hf, hw] at hs
      simp only [Pending.push, UInt8.reduceToNat] at ho ho₁ hlow hhigh ⊢
      have hv := toNat_ofNat_of_valid (n := (p.value * 64 + (b₁.toNat - 0x80)) * 64 + (b.toNat - 0x80)) (by omega)
      apply encodeChar_three <;> rw [hv] <;> omega
    | @more _ p b₂ h ht₂ ho₂ =>
      cases h with
      | @lead b₀ p _ hp =>
        obtain ⟨hf, hw, -, hcases⟩ := ofLead?_cases hp
        obtain ⟨-, hlow₂, hhigh₂⟩ := takes_iff.1 ht₂
        obtain ⟨-, hlow₁, hhigh₁⟩ := takes_iff.1 ht₁
        obtain ⟨-, hlow, hhigh⟩ := takes_iff.1 ht
        simp only [Pending.push, UInt8.reduceToNat] at ho ho₁ ho₂ hlow hhigh hlow₁ hhigh₁ ⊢
        have hv := toNat_ofNat_of_valid
          (n := ((p.value * 64 + (b₂.toNat - 0x80)) * 64 + (b₁.toNat - 0x80)) * 64 + (b.toNat - 0x80)) (by omega)
        apply encodeChar_four <;> rw [hv] <;> omega
      | more h _ ho₃ =>
        have hle := owed_le_of_begins h
        simp only [Pending.push] at ho₁ ho₂ ho₃
        omega

/-- The bytes are a sequence that its last byte ends, with the given value. -/
def Ends (bytes : List UInt8) (n : Nat) : Prop :=
  ∃ start p b, bytes = start ++ [b] ∧ Begins start p ∧ p.Takes b ∧ (p.push b).owed = 0 ∧ (p.push b).value = n

theorem ends_two {n : Nat} (hn : 0x80 ≤ n) (hn' : n < 0x800) (h₀ : b₀.toNat = 0xc0 + n / 64)
    (h₁ : b₁.toNat = 0x80 + n % 64) : Ends [b₀, b₁] n := by
  obtain ⟨p, hp, hlead⟩ := exists_begins_lead (b := b₀) (by omega) (by omega)
  obtain ⟨hf, hw, hs, hcases⟩ := ofLead?_cases hp
  refine ⟨[b₀], p, b₁, rfl, hlead, takes_iff.2 ⟨hs, by omega, by omega⟩, ?_, ?_⟩
  all_goals
    simp only [Pending.push]
    omega

theorem ends_three {n : Nat} (hn : 0x800 ≤ n) (hn' : n < 0xd800 ∨ 0xdfff < n ∧ n < 0x10000)
    (h₀ : b₀.toNat = 0xe0 + n / 4096) (h₁ : b₁.toNat = 0x80 + n / 64 % 64) (h₂ : b₂.toNat = 0x80 + n % 64) :
    Ends [b₀, b₁, b₂] n := by
  obtain ⟨p, hp, hlead⟩ := exists_begins_lead (b := b₀) (by omega) (by omega)
  obtain ⟨hf, hw, hs, hcases⟩ := ofLead?_cases hp
  have hb₁ : p.Takes b₁ := takes_iff.2 ⟨hs, by omega, by omega⟩
  have hs₁ : (p.push b₁).surrogate = false := by
    rw [surrogate_push, hf, hw]
    omega
  refine ⟨[b₀, b₁], p.push b₁, b₂, rfl, .more hlead hb₁ ?_, takes_iff.2 ⟨hs₁, ?_, ?_⟩, ?_, ?_⟩
  all_goals
    simp only [Pending.push, UInt8.reduceToNat]
    omega

theorem ends_four {n : Nat} (hn : 0x10000 ≤ n) (hn' : n < 0x110000) (h₀ : b₀.toNat = 0xf0 + n / 262144)
    (h₁ : b₁.toNat = 0x80 + n / 4096 % 64) (h₂ : b₂.toNat = 0x80 + n / 64 % 64) (h₃ : b₃.toNat = 0x80 + n % 64) :
    Ends [b₀, b₁, b₂, b₃] n := by
  obtain ⟨p, hp, hlead⟩ := exists_begins_lead (b := b₀) (by omega) (by omega)
  obtain ⟨hf, hw, hs, hcases⟩ := ofLead?_cases hp
  have hb₁ : p.Takes b₁ := takes_iff.2 ⟨hs, by omega, by omega⟩
  have hs₁ : (p.push b₁).surrogate = false := by
    rw [surrogate_push, hf]
    omega
  have hb₂ : (p.push b₁).Takes b₂ := by
    refine takes_iff.2 ⟨hs₁, ?_, ?_⟩
    all_goals
      simp only [Pending.push, UInt8.reduceToNat]
      omega
  have hs₂ : ((p.push b₁).push b₂).surrogate = false := by
    rw [surrogate_push]
    simp only [Pending.push]
    omega
  refine ⟨[b₀, b₁, b₂], (p.push b₁).push b₂, b₃, rfl, .more (.more hlead hb₁ ?_) hb₂ ?_,
    takes_iff.2 ⟨hs₂, ?_, ?_⟩, ?_, ?_⟩
  all_goals
    simp only [Pending.push, UInt8.reduceToNat]
    omega

theorem ends_encodeChar (h : 0x80 ≤ c.toNat) : Ends (String.utf8EncodeChar c) c.toNat := by
  have hvalid : c.toNat < 0xd800 ∨ 0xdfff < c.toNat ∧ c.toNat < 0x110000 := c.valid
  have hbyte (n : Nat) (hn : n < 256) : (UInt8.ofNat n).toNat = n := UInt8.toNat_ofNat_of_lt' hn
  by_cases h₂ : c.toNat < 0x800
  · have h₀ := hbyte (0xc0 + c.toNat / 64) (by omega)
    have h₁ := hbyte (0x80 + c.toNat % 64) (by omega)
    rw [encodeChar_two h h₂ h₀ h₁]
    exact ends_two h h₂ h₀ h₁
  by_cases h₃ : c.toNat < 0x10000
  · have h₀ := hbyte (0xe0 + c.toNat / 4096) (by omega)
    have h₁ := hbyte (0x80 + c.toNat / 64 % 64) (by omega)
    have h₂ := hbyte (0x80 + c.toNat % 64) (by omega)
    rw [encodeChar_three (by omega) h₃ h₀ h₁ h₂]
    exact ends_three (by omega) (by omega) h₀ h₁ h₂
  · have h₀ := hbyte (0xf0 + c.toNat / 262144) (by omega)
    have h₁ := hbyte (0x80 + c.toNat / 4096 % 64) (by omega)
    have h₂ := hbyte (0x80 + c.toNat / 64 % 64) (by omega)
    have h₃ := hbyte (0x80 + c.toNat % 64) (by omega)
    rw [encodeChar_four (by omega) (by omega) h₀ h₁ h₂ h₃]
    exact ends_four (by omega) (by omega) h₀ h₁ h₂ h₃

end Sequences

section Texts

variable {i : Nat} {b : UInt8} {bytes start : List UInt8} {p : Pending} {r r' : Option Pending} {c : Char}

theorem scan_encodeChar (i : Nat) (c : Char) (rest : List UInt8) :
    scan i none (String.utf8EncodeChar c ++ rest) =
      ⟨c :: (scan (i + (String.utf8EncodeChar c).length) none rest).text,
        (scan (i + (String.utf8EncodeChar c).length) none rest).rest⟩ := by
  by_cases hc : c.toNat < 0x80
  · have hbyte : (UInt8.ofNat c.toNat).toNat = c.toNat := UInt8.toNat_ofNat_of_lt' (by simp [UInt8.size]; omega)
    have hlt : UInt8.ofNat c.toNat < 0x80 := by
      rw [UInt8.lt_iff_toNat_lt, hbyte]
      exact hc
    rw [encodeChar_one hc, List.singleton_append, scan_char (step_ascii hlt), hbyte, Char.ofNat_toNat]
    rfl
  · obtain ⟨start, p, b, hbytes, hbegins, htakes, howed, hvalue⟩ := ends_encodeChar (Nat.not_lt.1 hc)
    rw [hbytes, List.append_assoc, List.singleton_append, scan_begins hbegins,
      scan_char ((step_take htakes).trans (if_pos howed)), hvalue, Char.ofNat_toNat]
    simp [Nat.add_assoc]

theorem encode_cons (c : Char) (s : List Char) : encode (c :: s) = String.utf8EncodeChar c ++ encode s :=
  List.flatMap_cons

theorem scan_encode (i : Nat) (s : List Char) : scan i none (encode s) = ⟨s, .ok none⟩ := by
  induction s generalizing i with
  | nil => rfl
  | cons c s ih =>
    rw [encode_cons, scan_encodeChar, ih]

/-- The bytes that a sequence left open stands for. -/
def LeftOpen : Option Pending → List UInt8 → Prop
  | none, bytes => bytes = []
  | some p, bytes => Begins bytes p

theorem encodeChar_of_step (hr : LeftOpen r start) (h : step i r b = .char c) :
    String.utf8EncodeChar c = start ++ [b] := by
  cases r with
  | none =>
    cases hr
    by_cases hb : b < 0x80
    · obtain rfl := Step.char.inj ((step_ascii hb).symm.trans h)
      have hlt : b.toNat < 0x80 := UInt8.lt_iff_toNat_lt.1 hb
      have hc : (Char.ofNat b.toNat).toNat = b.toNat := toNat_ofNat_of_valid (by omega)
      rw [encodeChar_one (by omega), hc, UInt8.ofNat_toNat]
      rfl
    · simp only [step, if_neg hb] at h
      split at h <;> cases h
  | some p =>
    by_cases ht : p.Takes b
    · by_cases ho : (p.push b).owed = 0
      · obtain rfl := Step.char.inj (((step_take ht).trans (if_pos ho)).symm.trans h)
        exact encodeChar_of_begins hr ht ho
      · cases ((step_take ht).trans (if_neg ho)).symm.trans h
    · cases (step_refuse ht).symm.trans h

theorem begins_of_step (hr : LeftOpen r start) (h : step i r b = .more p) : Begins (start ++ [b]) p := by
  cases r with
  | none =>
    cases hr
    by_cases hb : b < 0x80
    · cases (step_ascii hb).symm.trans h
    · simp only [step, if_neg hb] at h
      split at h
      · next hp =>
        cases h
        exact .lead (UInt8.not_lt.1 hb) hp
      · cases h
  | some q =>
    by_cases ht : q.Takes b
    · by_cases ho : (q.push b).owed = 0
      · cases ((step_take ht).trans (if_pos ho)).symm.trans h
      · cases ((step_take ht).trans (if_neg ho)).symm.trans h
        exact .more hr ht ho
    · cases (step_refuse ht).symm.trans h

theorem eq_encode_of_scan (hr : LeftOpen r start) (h : (scan i r bytes).rest = .ok r') :
    ∃ rest, start ++ bytes = encode (scan i r bytes).text ++ rest ∧ LeftOpen r' rest := by
  induction bytes generalizing i r start with
  | nil =>
    cases h
    exact ⟨start, List.append_nil start, hr⟩
  | cons b bytes ih =>
    have hassoc : start ++ b :: bytes = (start ++ [b]) ++ bytes := by simp
    cases hs : step i r b with
    | char c =>
      rw [scan_char hs] at h ⊢
      obtain ⟨rest, heq, hrest⟩ := ih (show LeftOpen none [] from rfl) h
      refine ⟨rest, ?_, hrest⟩
      rw [hassoc, ← encodeChar_of_step hr hs, encode_cons, List.append_assoc, ← heq, List.nil_append]
    | more p =>
      rw [scan_more hs] at h ⊢
      rw [hassoc]
      exact ih (r := some p) (begins_of_step hr hs) h
    | fault f =>
      rw [scan_fault hs] at h
      cases h

end Texts

end SchemaDdl.Text.Utf8
