import SchemaDdl.Text.LineEnd
import SchemaDdl.Toml.Key
import SchemaDdl.Toml.Moment
import SchemaDdl.Toml.Number

namespace SchemaDdl.Toml

/-- Changes the table at the end of a path, creating tables on the way. A list on the way stands for its last element,
if lists are to be entered. Gives nothing if there is no table on the way. -/
def updateAt (enterLists : Bool) (f : Table → Option Table) : List String → Table → Option Table
  | [], t => f t
  | k :: ks, t =>
    match t.get? k with
    | none => (updateAt enterLists f ks []).map fun u ↦ t.put k (.table u)
    | some (.table u) => (updateAt enterLists f ks u).map fun u ↦ t.put k (.table u)
    | some (.list items) =>
      match enterLists, items.getLast? with
      | true, some (.table u) =>
        (updateAt enterLists f ks u).map fun u ↦ t.put k (.list (items.dropLast ++ [.table u]))
      | _, _ => none
    | some _ => none

def define (key : String) (v : Value) (t : Table) : Option Table :=
  match t.get? key with
  | none => some (t.put key v)
  | some _ => none

def appendTable (key : String) (t : Table) : Option Table :=
  match t.get? key with
  | none => some (t.put key (.list [.table []]))
  | some (.list items) => some (t.put key (.list (items ++ [.table []])))
  | some _ => none

def orInvalid {α : Type} : Option α → Except Fault α
  | some a => .ok a
  | none => .error .invalid

def isFrozen (frozen : List (List String)) (key : List String) : Bool := frozen.any (·.isPrefixOf key)

def isCollection : Value → Bool
  | .list _ => true
  | .table _ => true
  | _ => false

inductive Bracket where
  | list | table
  deriving DecidableEq, Repr

/-- Where a reader has no room for a value: inside which brackets, innermost first, and before which text. -/
abbrev Limit := List Bracket → List Char → Bool

/-- The room that the reader of a collection needs beside that of its values. -/
def Bracket.room : Bracket → Nat
  | .list => 2
  | .table => 3

def Limit.ofRoom (room : Nat) : Limit := fun around _ ↦ room < around.foldr (fun b n ↦ b.room + n) 0

mutual

/-- Reads a value. `fuel` bounds the depth and the length of collections. -/
def value (limit : Limit) : Nat → List Bracket → Reader Value
  | 0, _, _ => .error .invalid
  | fuel + 1, around, cs =>
    if limit around cs then .error .tooDeep
    else
      match cs with
      | '"' :: '"' :: '"' :: rest => do
        let (s, rest) ← blockText '"' rest
        return (.text (String.ofList s), rest)
      | '"' :: rest => do
        let (s, rest) ← basicText false (rest.length + 1) rest
        return (.text (String.ofList s), rest)
      | '\'' :: '\'' :: '\'' :: rest => do
        let (s, rest) ← blockText '\'' rest
        return (.text (String.ofList s), rest)
      | '\'' :: rest => do
        let (s, rest) ← literalText rest
        return (.text (String.ofList s), rest)
      | 't' :: 'r' :: 'u' :: 'e' :: rest => .ok (.bool true, rest)
      | 'f' :: 'a' :: 'l' :: 's' :: 'e' :: rest => .ok (.bool false, rest)
      | '[' :: rest => do
        let (items, rest) ← listItems limit fuel (.list :: around) rest
        return (.list items, rest)
      | '\x7b' :: rest =>
        match skipSpaces rest with
        | '\x7d' :: rest => .ok (.table [], rest)
        | rest => do
          let (t, rest) ← inlineEntries limit fuel (.table :: around) [] [] rest
          return (.table t, rest)
      | _ =>
        match dateTime? cs with
        | some r => r
        | none =>
          match time? cs with
          | some (t, rest) => .ok (.time t, rest)
          | none =>
            match number? cs with
            | some r => r
            | none => orInvalid (specialFloat? cs)

def listItems (limit : Limit) : Nat → List Bracket → Reader (List Value)
  | 0, _, _ => .error .invalid
  | fuel + 1, around, cs => do
    match ← skipToItem (cs.length + 1) cs with
    | ']' :: rest => return ([], rest)
    | rest =>
      let (v, rest) ← value limit fuel around rest
      match ← skipToItem (rest.length + 1) rest with
      | ']' :: rest => return ([v], rest)
      | ',' :: rest =>
        let (vs, rest) ← listItems limit fuel around rest
        return (v :: vs, rest)
      | _ => .error .invalid

def inlineEntries (limit : Limit) : Nat → List Bracket → List (List String) → Table → Reader Table
  | 0, _, _, _, _ => .error .invalid
  | fuel + 1, around, frozen, t, cs => do
    let (path, v, rest) ← keyValue limit fuel around cs
    if isFrozen frozen path then .error .invalid
    else
      let t ← orInvalid (updateAt false (define (path.getLastD "") v) path.dropLast t)
      match skipSpaces rest with
      | '\x7d' :: rest => return (t, rest)
      | ',' :: rest =>
        inlineEntries limit fuel around (if isCollection v then path :: frozen else frozen) t (skipSpaces rest)
      | _ => .error .invalid

def keyValue (limit : Limit) : Nat → List Bracket → List Char → Except Fault (List String × Value × List Char)
  | 0, _, _ => .error .invalid
  | fuel + 1, around, cs => do
    let (path, rest) ← key (cs.length + 1) cs
    match rest with
    | '=' :: rest =>
      let (v, rest) ← value limit fuel around (skipSpaces rest)
      return (path, v, rest)
    | _ => .error .invalid

end

structure State where
  root : Table := []
  header : List String := []
  /-- Values written whole, which nothing can be added to. -/
  frozen : List (List String) := []
  /-- Tables that can no longer be opened by a header or a dotted key. -/
  explicit : List (List String) := []
  /-- Tables made by dotted keys, explicit from the next header on. -/
  pending : List (List String) := []

namespace State

def between (s : State) (path : List String) : List (List String) :=
  (List.range (path.length - 1)).map fun i ↦ s.header ++ path.take (i + 1)

def addEntry (s : State) (path : List String) (v : Value) : Option State := do
  let outer := s.between path
  if outer.any s.explicit.contains then none
  let parent := s.header ++ path.dropLast
  if isFrozen s.frozen parent then none
  let root ← updateAt true (define (path.getLastD "") v) parent s.root
  return { s with
    root
    frozen := if isCollection v then (s.header ++ path) :: s.frozen else s.frozen
    pending := outer ++ s.pending }

def settle (s : State) : State := { s with explicit := s.pending ++ s.explicit, pending := [] }

def openTable (s : State) (path : List String) : Option State := do
  if s.explicit.contains path || isFrozen s.frozen path then none
  let root ← updateAt true some path s.root
  return { s with root, header := path, explicit := path :: s.explicit }

/-- A new table of a list; what was known of the tables below the list's last one no longer holds. -/
def openListTable (s : State) (path : List String) : Option State := do
  if isFrozen s.frozen path then none
  let root ← updateAt true (appendTable (path.getLastD "")) path.dropLast s.root
  let below (key : List String) : Bool := path.isPrefixOf key
  return { s with
    root
    header := path
    frozen := s.frozen.filter (! below ·)
    explicit := path :: s.explicit.filter (! below ·) }

end State

def tableHeader (s : State) (cs : List Char) : Except Fault (State × List Char) := do
  let s := s.settle
  match cs with
  | '[' :: rest =>
    let rest := skipSpaces rest
    let (path, rest) ← key (rest.length + 1) rest
    let s ← orInvalid (s.openListTable path)
    match rest with
    | ']' :: ']' :: rest => return (s, rest)
    | _ => .error .invalid
  | _ =>
    let rest := skipSpaces cs
    let (path, rest) ← key (rest.length + 1) rest
    let s ← orInvalid (s.openTable path)
    match rest with
    | ']' :: rest => return (s, rest)
    | _ => .error .invalid

def statement (limit : Limit) (s : State) (cs : List Char) : Except Fault (State × List Char) :=
  match cs with
  | '[' :: rest => do
    let (s, rest) ← tableHeader s rest
    return (s, skipSpaces rest)
  | '#' :: _ => .ok (s, cs)
  | _ => do
    let (path, v, rest) ← keyValue limit (2 * cs.length + 2) [] cs
    let s ← orInvalid (s.addEntry path v)
    return (s, skipSpaces rest)

def statements (limit : Limit) : Nat → State → List Char → Except Fault State
  | 0, s, _ => .ok s
  | fuel + 1, s, cs =>
    match skipSpaces cs with
    | [] => .ok s
    | '\n' :: rest => statements limit fuel s rest
    | rest => do
      let (s, rest) ← statement limit s rest
      match ← skipComment rest with
      | [] => return s
      | '\n' :: rest => statements limit fuel s rest
      | _ => .error .invalid

def parse (limit : Limit) (text : List Char) : Except Fault Table := do
  let cs := Text.dropPairedReturns text
  let s ← statements limit (cs.length + 1) {} cs
  return s.root

end SchemaDdl.Toml
