import SchemaDdl.Text.Quoted

namespace SchemaDdl.Text.Utf8

inductive Reason where
  | start
  | continuation
  | incomplete
  deriving DecidableEq, Repr

def Reason.text : Reason → String
  | .start => "invalid start byte"
  | .continuation => "invalid continuation byte"
  | .incomplete => "unexpected end of data"

structure Fault where
  first : UInt8
  position : Nat
  width : Nat
  reason : Reason
  deriving DecidableEq, Repr

def Fault.message (f : Fault) : String :=
  let bytes :=
    if f.width = 1 then
      let code := String.ofList (hex 2 f.first.toNat)
      s!"byte 0x{code} in position {f.position}"
    else
      let last := f.position + f.width - 1
      s!"bytes in position {f.position}-{last}"
  s!"'utf-8' codec can't decode {bytes}: {f.reason.text}"

/-- A sequence that has begun: its first byte, the number of its bytes and their value so far, the number of bytes
owed, and the range of the next one. The first two bytes of a surrogate can be no sequence, but are only refused when
it is known what follows them. -/
structure Pending where
  first : UInt8
  width : Nat
  value : Nat
  owed : Nat
  low : UInt8
  high : UInt8
  surrogate : Bool := false
  deriving DecidableEq, Repr

def Pending.fault (p : Pending) (position : Nat) (reason : Reason) : Fault :=
  if p.surrogate then ⟨p.first, position, 1, .continuation⟩ else ⟨p.first, position, p.width, reason⟩

/-- The sequence that a byte from 0x80 on begins. The second byte's range keeps out overlong forms and values above the
last code point. -/
def Pending.ofLead? (b : UInt8) : Option Pending :=
  let n := b.toNat
  if b < 0xc2 then none
  else if b < 0xe0 then some { first := b, width := 1, value := n - 0xc0, owed := 1, low := 0x80, high := 0xbf }
  else if b < 0xf0 then
    let low := if b = 0xe0 then 0xa0 else 0x80
    some { first := b, width := 1, value := n - 0xe0, owed := 2, low, high := 0xbf }
  else if b < 0xf5 then
    let low := if b = 0xf0 then 0x90 else 0x80
    let high := if b = 0xf4 then 0x8f else 0xbf
    some { first := b, width := 1, value := n - 0xf0, owed := 3, low, high }
  else none

def Pending.push (p : Pending) (b : UInt8) : Pending where
  first := p.first
  width := p.width + 1
  value := p.value * 64 + (b.toNat - 0x80)
  owed := p.owed - 1
  low := 0x80
  high := 0xbf
  surrogate := p.first = 0xed ∧ p.width = 1 ∧ 0xa0 ≤ b

inductive Step where
  | char (c : Char)
  | more (p : Pending)
  | fault (f : Fault)

def step (position : Nat) (pending : Option Pending) (b : UInt8) : Step :=
  match pending with
  | none =>
    if b < 0x80 then .char (Char.ofNat b.toNat)
    else
      match Pending.ofLead? b with
      | some p => .more p
      | none => .fault ⟨b, position, 1, .start⟩
  | some p =>
    if !p.surrogate ∧ p.low ≤ b ∧ b ≤ p.high then
      let q := p.push b
      if q.owed = 0 then .char (Char.ofNat q.value) else .more q
    else .fault (p.fault (position - p.width) .continuation)

structure Scan where
  text : List Char
  rest : Except Fault (Option Pending)

def scan (position : Nat) (pending : Option Pending) : List UInt8 → Scan
  | [] => ⟨[], .ok pending⟩
  | b :: bs =>
    match step position pending b with
    | .char c =>
      let s := scan (position + 1) none bs
      ⟨c :: s.text, s.rest⟩
    | .more p => scan (position + 1) (some p) bs
    | .fault f => ⟨[], .error f⟩

def decode (bytes : List UInt8) : Except Fault (List Char) :=
  let s := scan 0 none bytes
  match s.rest with
  | .ok none => .ok s.text
  | .ok (some p) => .error (p.fault (bytes.length - p.width) .incomplete)
  | .error f => .error f

def encode (s : List Char) : List UInt8 := s.flatMap String.utf8EncodeChar

end SchemaDdl.Text.Utf8
