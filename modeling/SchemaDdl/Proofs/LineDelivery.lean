import SchemaDdl.Window

namespace SchemaDdl.Window

/-- What becomes of a line. -/
inductive Fate where
  | delivered (l : SourceLine)
  | tooLong (number limit : Int)

def Fate.pull : Fate → Pull
  | .delivered l => .line l
  | .tooLong number limit => .stop (.fault (.lineTooLong number limit))

def fate (limit : Option Int) (l : SourceLine) : Fate :=
  match limit with
  | none => .delivered l
  | some m => if m < l.text.length then .tooLong l.number m else .delivered l

/-- The fates of the lines of a document, which are numbered from one. -/
def fates (limit : Option Int) (raws : List String) : List Fate :=
  raws.mapIdx fun i raw ↦ fate limit ⟨i + 1, Text.dropTerminator raw⟩

inductive Call where
  | next | peek
  deriving DecidableEq

def call (w : Window) : Call → Pull × Window
  | .next => w.next
  | .peek => w.peek

def answers (w : Window) : List Call → List (Call × Pull)
  | [] => []
  | c :: cs => (c, (w.call c).1) :: answers (w.call c).2 cs

/-- The fate that an answer settles. A line that is only looked at is not settled. -/
def settled? : Call × Pull → Option Fate
  | (.next, .line l) => some (.delivered l)
  | (_, .stop (.fault (.lineTooLong number limit))) => some (.tooLong number limit)
  | _ => none

/-- The window owes the fates `fs`, in this order, and nothing else. -/
structure Owes (w : Window) (fs : List Fate) : Prop where
  whole : w.broken? = none
  fates_eq : w.pending.toList.map Fate.delivered ++ w.rest.map (fate w.limit) = fs

def firstPull (fs : List Fate) : Pull := (fs.head?.map Fate.pull).getD .done

variable {w w' : Window} {f : Fate} {fs : List Fate} {c : Call}

theorem Fate.pull_ne_done (f : Fate) : f.pull ≠ .done := by
  cases f <;> simp [pull]

theorem firstPull_eq_done_iff : firstPull fs = .done ↔ fs = [] := by
  cases fs with
  | nil => simp [firstPull]
  | cons f fs => simp [firstPull, f.pull_ne_done]

theorem eq_cons_of_firstPull {l : SourceLine} (h : firstPull fs = .line l) : ∃ rest, fs = .delivered l :: rest := by
  cases fs with
  | nil => cases h
  | cons f rest =>
    cases f with
    | delivered k =>
      cases h
      exact ⟨rest, rfl⟩
    | tooLong number limit => cases h

theorem read_of_rest {l : SourceLine} {ls : List SourceLine} (h : w.rest = l :: ls) :
    w.read = ((fate w.limit l).pull, { w with rest := ls }) := by
  unfold read fate
  rw [h]
  cases hlimit : w.limit with
  | none => simp [tooLong?, hlimit, Fate.pull]
  | some m => by_cases hlong : m < l.text.length <;> simp [tooLong?, hlimit, Option.filter, hlong, Fate.pull]

theorem owes_ofSupply (limit : Option Int) (raws : List String) :
    (ofSupply { lines := raws } limit).Owes (fates limit raws) := by
  have hnumbered (n : Int) : (numberLines n raws).map (fate limit) =
      raws.mapIdx fun i raw ↦ fate limit ⟨n + i, Text.dropTerminator raw⟩ := by
    induction raws generalizing n with
    | nil => rfl
    | cons raw raws ih =>
      have hnumber (i : Nat) : n + 1 + (i : Int) = n + ((i + 1 : Nat) : Int) := by omega
      rw [numberLines, List.map_cons, ih, List.mapIdx_cons]
      simp only [hnumber, Int.natCast_zero, Int.add_zero]
  refine ⟨rfl, ?_⟩
  simp [ofSupply, fates, hnumbered, Int.add_comm]

theorem eq_of_fate {limit : Option Int} {k l : SourceLine} (h : fate limit l = .delivered k) : k = l := by
  unfold fate at h
  split at h
  · exact (Fate.delivered.inj h).symm
  · split at h
    · cases h
    · exact (Fate.delivered.inj h).symm

/-- What one call does: it answers by the first fate that is owed, and what its answer settles is owed no more. -/
theorem Owes.call (h : w.Owes fs) (c : Call) :
    (w.call c).1 = firstPull fs ∧
      ∃ left, (w.call c).2.Owes left ∧ fs = (settled? (c, firstPull fs)).toList ++ left := by
  obtain ⟨hwhole, rfl⟩ := h
  cases hpending : w.pending with
  | some p =>
    have hpeek : w.peek = (.line p, w) := by simp only [peek, hpending]
    have hnext : w.next = (.line p, { w with pending := none }) := by simp only [next, hpending]
    cases c with
    | next =>
      rw [Window.call, hnext]
      exact ⟨rfl, _, ⟨hwhole, rfl⟩, rfl⟩
    | peek =>
      rw [Window.call, hpeek]
      exact ⟨rfl, _, ⟨hwhole, rfl⟩, by simp [firstPull, settled?, Fate.pull, hpending]⟩
  | none =>
    cases hrest : w.rest with
    | nil =>
      have hread : w.read = (.done, w) := by simp only [read, hrest, hwhole]
      have hcall : w.call c = (.done, w) := by
        cases c <;> simp only [Window.call, next, peek, hpending, hread]
      rw [hcall]
      exact ⟨rfl, _, ⟨hwhole, rfl⟩, by simp [firstPull, settled?, hpending, hrest]⟩
    | cons l ls =>
      have hread := read_of_rest hrest
      cases hfate : fate w.limit l with
      | tooLong number limit =>
        rw [hfate] at hread
        have hcall : w.call c = (.stop (.fault (.lineTooLong number limit)), { w with rest := ls }) := by
          cases c <;> simp only [Window.call, next, peek, hpending, hread, Fate.pull]
        rw [hcall]
        refine ⟨by simp [firstPull, hfate, Fate.pull], _, ⟨hwhole, rfl⟩, ?_⟩
        cases c <;> simp [firstPull, settled?, hfate, Fate.pull, hpending]
      | delivered k =>
        obtain rfl := eq_of_fate hfate
        rw [hfate] at hread
        cases c with
        | next =>
          have hnext : w.next = (.line k, { w with rest := ls }) := by simp only [next, hpending, hread, Fate.pull]
          rw [Window.call, hnext]
          exact ⟨by simp [firstPull, hfate, Fate.pull], _, ⟨hwhole, rfl⟩,
            by simp [firstPull, settled?, hfate, Fate.pull, hpending]⟩
        | peek =>
          have hpeek : w.peek = (.line k, { w with rest := ls, pending := some k }) := by
            simp only [peek, hpending, hread, Fate.pull]
          rw [Window.call, hpeek]
          exact ⟨by simp [firstPull, hfate, Fate.pull], _, ⟨hwhole, rfl⟩,
            by simp [firstPull, settled?, hfate, Fate.pull]⟩

/-- After any of its calls a window owes the fates that these calls have not settled. -/
theorem Owes.split (h : w.Owes fs) {calls : List Call} {before after : List (Call × Pull)}
    (hsplit : w.answers calls = before ++ after) :
    ∃ (w' : Window) (left : List Fate) (calls' : List Call),
      w'.Owes left ∧ fs = before.filterMap settled? ++ left ∧ after = w'.answers calls' := by
  induction before generalizing w fs calls with
  | nil => exact ⟨w, fs, calls, h, rfl, hsplit.symm⟩
  | cons a before ih =>
    cases calls with
    | nil => cases hsplit
    | cons c calls =>
      obtain ⟨rfl, hrest⟩ := List.cons.inj hsplit
      obtain ⟨hanswer, left, howes, hfs⟩ := h.call c
      obtain ⟨w', left', calls', howes', rfl, hafter⟩ := ih howes hrest
      refine ⟨w', left', calls', howes', ?_, hafter⟩
      rw [hanswer, List.filterMap_cons]
      cases hsettled : settled? (c, firstPull fs) with
      | none => simpa [hsettled] using hfs
      | some f => simpa [hsettled] using hfs

theorem Owes.answers_eq (h : w.Owes fs) (h' : w'.Owes fs) (calls : List Call) : w.answers calls = w'.answers calls := by
  induction calls generalizing w w' fs with
  | nil => rfl
  | cons c calls ih =>
    obtain ⟨hanswer, left, howes, hfs⟩ := h.call c
    obtain ⟨hanswer', left', howes', hfs'⟩ := h'.call c
    have hleft : left = left' := List.append_cancel_left (hfs.symm.trans hfs')
    subst hleft
    rw [answers, answers, hanswer, hanswer', ih howes howes']

theorem Owes.peek_delivered {l : SourceLine} {rest : List Fate} (h : w.Owes (.delivered l :: rest)) :
    (w.call .peek).1 = .line l ∧ (w.call .peek).2.Owes (.delivered l :: rest) := by
  obtain ⟨hanswer, left, howes, hfs⟩ := h.call .peek
  have hleft : left = .delivered l :: rest := hfs.symm
  rw [hleft] at howes
  exact ⟨hanswer, howes⟩

theorem Owes.shown {l : SourceLine} {rest : List Fate} (h : w.Owes (.delivered l :: rest)) {calls : List Call}
    {between after : List (Call × Pull)} {a : Pull} (hsplit : w.answers calls = between ++ (.next, a) :: after)
    (hpeeks : ∀ b ∈ between, b.1 = .peek) : a = .line l ∧ ∀ b ∈ between, b.2 = .line l := by
  induction between generalizing w calls with
  | nil =>
    cases calls with
    | nil => cases hsplit
    | cons c calls =>
      obtain ⟨hanswer, -⟩ := h.call c
      have hhead : (c, (w.call c).1) = (.next, a) := (List.cons.inj hsplit).1
      rw [hanswer] at hhead
      exact ⟨(congrArg Prod.snd hhead).symm, by simp⟩
  | cons b between ih =>
    cases calls with
    | nil => cases hsplit
    | cons c calls =>
      obtain ⟨hb, hbetween⟩ := List.forall_mem_cons.1 hpeeks
      obtain ⟨rfl, hrest⟩ := List.cons.inj hsplit
      obtain rfl : c = .peek := hb
      obtain ⟨hanswer, howes⟩ := h.peek_delivered
      obtain ⟨ha, hall⟩ := ih howes hrest hbetween
      exact ⟨ha, List.forall_mem_cons.2 ⟨hanswer, hall⟩⟩

theorem Owes.filter_next (h : w.Owes fs) (hfs : ∀ f ∈ fs, ∃ l, f = .delivered l) (calls : List Call) :
    (w.answers calls).filter (·.1 = .next) = w.answers (calls.filter (· = .next)) := by
  induction calls generalizing w fs with
  | nil => rfl
  | cons c calls ih =>
    obtain ⟨hanswer, left, howes, hsplit⟩ := h.call c
    have hleft : ∀ f ∈ left, ∃ l, f = .delivered l := by
      intro f hf
      exact hfs f (by rw [hsplit]; exact List.mem_append_right _ hf)
    cases c with
    | next => simpa [answers] using ih howes hleft
    | peek =>
      -- nothing is too long, so looking settles nothing
      have hsame : (w.call .peek).2.Owes fs := by
        cases fs with
        | nil =>
          rw [← (List.append_eq_nil_iff.1 hsplit.symm).2]
          exact howes
        | cons f rest =>
          obtain ⟨l, rfl⟩ := hfs f (by simp)
          exact h.peek_delivered.2
      simpa [answers] using (ih hsame hfs).trans (hsame.answers_eq h _)

theorem delivered_of_mem_fates {limit : Option Int} {raws : List String}
    (h : ∀ m ∈ limit, ∀ raw ∈ raws, ((Text.dropTerminator raw).length : Int) ≤ m) :
    ∀ f ∈ fates limit raws, ∃ l, f = .delivered l := by
  intro f hf
  obtain ⟨i, hi, rfl⟩ := List.mem_mapIdx.1 hf
  unfold fate
  split
  · exact ⟨_, rfl⟩
  next m =>
    have hm := h m rfl _ (List.getElem_mem hi)
    exact ⟨_, if_neg (Int.not_lt.2 hm)⟩

/-- However a window is called, the lines that it delivers and those that it finds too long come in the order of the
document, each once. A line that is shown is the line that is delivered next, and the window ends exactly when all its
lines have come. If no line is too long, it makes no difference whether lines are looked at. -/
theorem answers_in_order (raws : List String) (limit : Option Int) (calls : List Call) :
    let given := (ofSupply { lines := raws } limit).answers calls
    given.filterMap settled? <+: fates limit raws ∧
    (∀ a ∈ given, a.2 = .done ∨ ∃ f ∈ fates limit raws, a.2 = f.pull) ∧
    (∀ before l between a after, given = before ++ (.peek, .line l) :: (between ++ (.next, a) :: after) →
      (∀ b ∈ between, b.1 = .peek) → a = .line l ∧ ∀ b ∈ between, b.2 = .line l) ∧
    (∀ before a after, given = before ++ a :: after →
      (a.2 = .done ↔ before.filterMap settled? = fates limit raws)) ∧
    ((∀ m ∈ limit, ∀ raw ∈ raws, ((Text.dropTerminator raw).length : Int) ≤ m) →
      given.filter (·.1 = .next) = (ofSupply { lines := raws } limit).answers (calls.filter (· = .next))) := by
  intro given
  have howes := owes_ofSupply limit raws
  -- an answer in the middle is given by a window that owes what the answers before it have not settled
  have hanswer {before after : List (Call × Pull)} {a : Call × Pull} (hsplit : given = before ++ a :: after) :
      ∃ left, a.2 = firstPull left ∧ fates limit raws = before.filterMap settled? ++ left := by
    obtain ⟨w, left, calls', hw, hleft, hcalls⟩ := howes.split hsplit
    cases calls' with
    | nil => cases hcalls
    | cons c calls' =>
      obtain ⟨rfl, -⟩ := List.cons.inj hcalls
      exact ⟨left, (hw.call c).1, hleft⟩
  refine ⟨?_, ?_, ?_, ?_, ?_⟩
  · obtain ⟨w, left, calls', -, hleft, -⟩ := howes.split (List.append_nil given).symm
    exact ⟨left, hleft.symm⟩
  · intro a ha
    obtain ⟨before, after, hsplit⟩ := List.append_of_mem ha
    obtain ⟨left, hfirst, hleft⟩ := hanswer hsplit
    cases left with
    | nil => exact .inl hfirst
    | cons f left => exact .inr ⟨f, by simp [hleft], hfirst⟩
  · intro before l between a after hsplit hpeeks
    obtain ⟨w, left, calls', hw, -, hcalls⟩ := howes.split hsplit
    cases calls' with
    | nil => cases hcalls
    | cons c calls' =>
      obtain ⟨hhead, hrest⟩ := List.cons.inj hcalls
      obtain ⟨rfl, hshown⟩ := Prod.mk.inj hhead
      rw [(hw.call .peek).1] at hshown
      obtain ⟨rest, rfl⟩ := eq_cons_of_firstPull hshown.symm
      exact hw.peek_delivered.2.shown hrest.symm hpeeks
  · intro before a after hsplit
    obtain ⟨left, hfirst, hleft⟩ := hanswer hsplit
    rw [hfirst, firstPull_eq_done_iff, hleft]
    simp
  · intro hshort
    exact howes.filter_next (delivered_of_mem_fates hshort) calls

-- The second line is too long: looking at it counts as much as asking for it.
example : ((ofSupply { lines := ["ab\r\n", "abc", "c"] } (some 2)).answers
    [.peek, .peek, .next, .peek, .peek, .next, .next, .peek]).map Prod.snd =
      [.line ⟨1, "ab"⟩, .line ⟨1, "ab"⟩, .line ⟨1, "ab"⟩, .stop (.fault (.lineTooLong 2 2)), .line ⟨3, "c"⟩,
        .line ⟨3, "c"⟩, .done, .done] := by
  decide

end SchemaDdl.Window
