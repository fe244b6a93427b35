namespace SchemaDdl.Text

/-- The code points `first`, `first + stride`, … up to `last`. -/
structure Run where
  first : Nat
  last : Nat
  stride : Nat

def Run.mem (r : Run) (n : Nat) : Bool :=
  r.first ≤ n && n ≤ r.last && (n - r.first) % r.stride == 0

def inRuns : List Run → Nat → Bool
  | [], _ => false
  | r :: rs, n => if n < r.first then false else r.mem n || inRuns rs n

end SchemaDdl.Text
