import SchemaDdl.Toml.Text

namespace SchemaDdl.Toml

def isBareKeyChar (c : Char) : Bool := c.isAlphanum ∨ c = '-' ∨ c = '_'

def keyPart : Reader String
  | '"' :: cs => do
    let (s, rest) ← basicText false (cs.length + 1) cs
    return (String.ofList s, rest)
  | '\'' :: cs => do
    let (s, rest) ← literalText cs
    return (String.ofList s, rest)
  | cs =>
    let s := cs.takeWhile isBareKeyChar
    if s.isEmpty then .error .invalid else .ok (String.ofList s, cs.dropWhile isBareKeyChar)

def key : Nat → Reader (List String)
  | 0, _ => .error .invalid
  | fuel + 1, cs => do
    let (part, rest) ← keyPart cs
    match skipSpaces rest with
    | '.' :: rest =>
      let (parts, rest) ← key fuel (skipSpaces rest)
      return (part :: parts, rest)
    | rest => return ([part], rest)

end SchemaDdl.Toml
