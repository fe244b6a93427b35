import SchemaDdl.Toml.Scan

namespace SchemaDdl.Toml

def codeEscape (n : Nat) : Reader (List Char) := fun cs ↦
  match (cs.take n).mapM hexValue? with
  | some ds =>
    let code := Number.ofDigits 16 ds
    if ds.length = n ∧ code.isValidChar then .ok ([Char.ofNat code], cs.drop n) else .error .invalid
  | none => .error .invalid

/-- What follows a backslash. In a text over several lines a backslash at the end of a line joins it with the next
line that is not blank. -/
def escape (block : Bool) : Reader (List Char)
  | [] => .error .invalid
  | c :: cs =>
    if block && c = '\n' then .ok ([], cs.dropWhile isSpaceOrFeed)
    else if block && isSpace c then
      match skipSpaces cs with
      | [] => .ok ([], [])
      | '\n' :: rest => .ok ([], rest.dropWhile isSpaceOrFeed)
      | _ => .error .invalid
    else if c = 'u' then codeEscape 4 cs
    else if c = 'U' then codeEscape 8 cs
    else if c = 'b' then .ok (['\x08'], cs)
    else if c = 't' then .ok (['\t'], cs)
    else if c = 'n' then .ok (['\n'], cs)
    else if c = 'f' then .ok (['\x0c'], cs)
    else if c = 'r' then .ok (['\r'], cs)
    else if c = '"' then .ok (['"'], cs)
    else if c = '\\' then .ok (['\\'], cs)
    else .error .invalid

def basicText (block : Bool) : Nat → Reader (List Char)
  | 0, _ => .error .invalid
  | _ + 1, [] => .error .invalid
  | fuel + 1, c :: cs =>
    if c = '"' then
      if !block then .ok ([], cs)
      else if cs.take 2 = ['"', '"'] then .ok ([], cs.drop 2)
      else do
        let (s, rest) ← basicText block fuel cs
        return ('"' :: s, rest)
    else if c = '\\' then do
      let (e, rest) ← escape block cs
      let (s, rest) ← basicText block fuel rest
      return (e ++ s, rest)
    else if (if block then isControlInBlock c else isControl c) then .error .invalid
    else do
      let (s, rest) ← basicText block fuel cs
      return (c :: s, rest)

def literalText : Reader (List Char) := fun cs ↦
  let s := cs.takeWhile (· ≠ '\'')
  match cs.dropWhile (· ≠ '\'') with
  | _ :: rest => if s.any isControl then .error .invalid else .ok (s, rest)
  | [] => .error .invalid

def untilQuotes : List Char → Option (List Char × List Char)
  | [] => none
  | c :: cs =>
    if c = '\'' ∧ cs.take 2 = ['\'', '\''] then some ([], cs.drop 2)
    else (untilQuotes cs).map fun (s, rest) ↦ (c :: s, rest)

/-- Up to two further quotes after the closing ones belong to the text. -/
def extraQuotes (q : Char) (s rest : List Char) : List Char × List Char :=
  let n := ((rest.take 2).takeWhile (· = q)).length
  (s ++ List.replicate n q, rest.drop n)

/-- A text over several lines, after its opening quotes. A line feed right after them is not part of it. -/
def blockText (q : Char) : Reader (List Char) := fun cs ↦ do
  let cs := if cs.head? = some '\n' then cs.drop 1 else cs
  if q = '"' then
    let (s, rest) ← basicText true (cs.length + 1) cs
    return extraQuotes q s rest
  else
    match untilQuotes cs with
    | some (s, rest) => if s.any isControlInBlock then .error .invalid else return extraQuotes q s rest
    | none => .error .invalid

end SchemaDdl.Toml
