namespace SchemaDdl.CommandLine

structure Words where
  strict : Option Bool := none
  extension : Option String := none
  verbose : Bool := false
  version : Bool := false
  help : Bool := false
  arguments : List String := []
  deriving DecidableEq, Repr

inductive WordFault where
  | noSuchOption (option : String)
  | needsArgument (option : String)
  | takesNoValue (option : String)
  deriving DecidableEq, Repr

inductive Switch where
  | strict | lenient | verbose | version | help
  deriving DecidableEq, Repr

inductive LongOption where
  | switch (s : Switch)
  | extension
  deriving DecidableEq, Repr

def longOption? : String → Option LongOption
  | "--strict" => some (.switch .strict)
  | "--lenient" => some (.switch .lenient)
  | "--extension" => some .extension
  | "--verbose" => some (.switch .verbose)
  | "--version" => some (.switch .version)
  | "--help" => some (.switch .help)
  | _ => none

/-- Later switches win; but of the two that ask for a text only, the first one does. -/
def Words.turnOn (w : Words) : Switch → Words
  | .strict => { w with strict := some true }
  | .lenient => { w with strict := some false }
  | .verbose => { w with verbose := true }
  | .version => { w with version := !w.help || w.version }
  | .help => { w with help := !w.version || w.help }

def Words.letters (w : Words) : List Char → Except WordFault Words
  | [] => .ok w
  | c :: cs =>
    if c = 'v' then (w.turnOn .verbose).letters cs
    else .error (.noSuchOption (String.ofList ['-', c]))

def splitValue (word : List Char) : String × Option String :=
  match word.dropWhile (· ≠ '=') with
  | _ :: value => (String.ofList (word.takeWhile (· ≠ '=')), some (String.ofList value))
  | [] => (String.ofList word, none)

def Words.argument (w : Words) (word : String) : Words := { w with arguments := w.arguments ++ [word] }

/-- Reads words in order. Options win over arguments wherever they stand; a single dash is an argument. `awaiting` is
the option whose value the next word is. -/
def Words.read (w : Words) (awaiting : Option String) : List String → Except WordFault Words
  | [] =>
    match awaiting with
    | some name => .error (.needsArgument name)
    | none => .ok w
  | word :: rest =>
    let cs := word.toList
    if awaiting.isSome then { w with extension := some word }.read none rest
    else if word = "--" then .ok { w with arguments := w.arguments ++ rest }
    else if cs.head? ≠ some '-' ∨ cs.length ≤ 1 then (w.argument word).read none rest
    else
      let (name, value) := splitValue cs
      match longOption? name, value with
      | some .extension, some v => { w with extension := some v }.read none rest
      | some .extension, none => w.read (some name) rest
      | some (.switch _), some _ => .error (.takesNoValue name)
      | some (.switch s), none => (w.turnOn s).read none rest
      | none, _ =>
        if cs.take 2 = ['-', '-'] then .error (.noSuchOption name)
        else
          match w.letters (cs.drop 1) with
          | .ok w => w.read none rest
          | .error f => .error f

end SchemaDdl.CommandLine
