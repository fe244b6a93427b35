import SchemaDdl.Text.LineEnd
import SchemaDdl.Text.Utf8

namespace SchemaDdl.Text

structure LineSupply where
  lines : List String
  fault? : Option Utf8.Fault := none

def blockSize : Nat := 8192

/-- What is known of a file's text after some of its blocks: the characters so far, last block first and with line feeds
for all line ends, whether a carriage return is held back, and the sequence left open or the fault. -/
structure Decoding where
  chunks : List (List Char) := []
  held : Bool := false
  rest : Except Utf8.Fault (Option Utf8.Pending) := .ok none

/-- One more block. Its positions count from the first byte of the sequence left open by the block before it. A carriage
return that ends the block is held back, since the line feed that belongs to it may start the next one. -/
def Decoding.push (d : Decoding) (block : List UInt8) : Decoding :=
  match d.rest with
  | .error _ => d
  | .ok pending =>
    let s := Utf8.scan ((pending.map Utf8.Pending.width).getD 0) pending block
    match s.rest with
    | .error f => { d with rest := .error f }
    | .ok rest =>
      let text := if d.held then '\r' :: s.text else s.text
      ⟨joinReturns (dropLastIf '\r' text) :: d.chunks, text.getLast? = some '\r', .ok rest⟩

def Decoding.text (d : Decoding) : List Char := d.chunks.reverse.flatten

def blocks : Nat → List UInt8 → List (List UInt8)
  | 0, _ => []
  | _ + 1, [] => []
  | fuel + 1, bytes => bytes.take blockSize :: blocks fuel (bytes.drop blockSize)

def decodeBlocks (bytes : List UInt8) : Decoding :=
  (blocks (bytes.length / blockSize + 1) bytes).foldl Decoding.push {}

def endedLines (s : List Char) : List (List Char) :=
  (linesBy (· = '\n') (dropTail (· ≠ '\n') s)).map (· ++ ['\n'])

def allLines (s : List Char) : List (List Char) :=
  let tail := (s.reverse.takeWhile (· ≠ '\n')).reverse
  endedLines s ++ if tail.isEmpty then [] else [tail]

/-- The lines of a file. Before a fault only ended lines are delivered, and a carriage return that is held back does not
end a line before the next block is read or the file ends. -/
def LineSupply.ofBytes (bytes : List UInt8) : LineSupply :=
  let d := decodeBlocks bytes
  let broken (f : Utf8.Fault) : LineSupply := ⟨(endedLines d.text).map String.ofList, some f⟩
  match d.rest with
  | .ok none => ⟨(allLines (d.text ++ if d.held then ['\n'] else [])).map String.ofList, none⟩
  | .ok (some p) => broken (p.fault 0 .incomplete)
  | .error f => broken f

end SchemaDdl.Text
