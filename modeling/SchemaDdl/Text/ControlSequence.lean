namespace SchemaDdl.Text

def isParameter (c : Char) : Bool := c = ';' ∨ c = '?' ∨ c.isDigit

def afterControlSequence? : List Char → Option (List Char)
  | '\x1b' :: '[' :: s =>
    match s.dropWhile isParameter with
    | c :: rest => if c.isAlpha then some rest else none
    | [] => none
  | _ => none

theorem length_lt_of_afterControlSequence? {s rest : List Char} (h : afterControlSequence? s = some rest) :
    rest.length < s.length := by
  unfold afterControlSequence? at h
  split at h
  · rename_i s
    have hle : (s.dropWhile isParameter).length ≤ s.length := (List.dropWhile_suffix isParameter).length_le
    split at h
    · rename_i hs
      rw [hs] at hle
      split at h
      · simp only [Option.some.injEq] at h
        subst h
        simp only [List.length_cons] at hle ⊢
        omega
      · simp at h
    · simp at h
  · simp at h

/-- The text less its control sequences, found from left to right. What comes together around one that is left out is
not looked at again. -/
def dropControlSequences (s : List Char) : List Char :=
  match h : afterControlSequence? s with
  | some rest =>
    have := length_lt_of_afterControlSequence? h
    dropControlSequences rest
  | none =>
    match s with
    | [] => []
    | c :: s => c :: dropControlSequences s
termination_by s.length

def plain (s : String) : String := String.ofList (dropControlSequences s.toList)

end SchemaDdl.Text
