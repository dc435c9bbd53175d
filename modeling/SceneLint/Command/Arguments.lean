import SceneLint.Text.Search

/-!
# Arguments of a command line

`scan` sorts the words of a command line into options and arguments. A long option may carry its
value behind an equals sign, short ones may be written together, and two dashes end the options.
`parseCheck` and the parsers beside it read the words of one command; words that cannot be read are
a fault of usage, unless help is asked for.
-/

namespace SceneLint.Command

/-- A `Flag` is an option that a command knows. -/
structure Flag where
  long : String
  short : Option Char
  takesValue : Bool

/-- `Words` is the options, each with its value, and the arguments of a command line. -/
structure Words where
  options : List (String × String)
  arguments : List String

/-- `Parsed α` is what was read of a command line. -/
inductive Parsed (α : Type) where
  | ok (a : α)
  | help
  | misused

/-- `withOption name value words` puts an option before words. -/
def withOption (name value : String) (words : Words) : Words :=
  { words with options := (name, value) :: words.options }

/-- A `Cluster` is short options written together: those that stand alone, and perhaps one that
takes a value, with what is left of the word. -/
structure Cluster where
  alone : List String
  valued : Option (String × List Char)

/-- `readCluster flags cs` reads short options written together. -/
def readCluster (flags : List Flag) : List Char → Option Cluster
  | [] => some ⟨[], none⟩
  | c :: cs =>
      match flags.find? (·.short == some c) with
      | none => none
      | some flag =>
          if flag.takesValue then some ⟨[], some (flag.long, cs)⟩
          else (readCluster flags cs).map fun cluster =>
            { cluster with alone := flag.long :: cluster.alone }

/-- `withAlone names words` puts options without a value before words. -/
def withAlone (names : List String) (words : Words) : Words :=
  { words with options := names.map (fun name => (name, "")) ++ words.options }

/-- A `Reading` is what one word means: an argument, the end of the options, options, or options
of which the last still lacks its value. -/
inductive Reading where
  | argument
  | endOfOptions
  | options (alone : List String)
  | valued (alone : List String) (name value : String)
  | awaiting (alone : List String) (name : String)
  | unknown

/-- `readLong flags word` reads a word that starts with two dashes. -/
def readLong (flags : List Flag) (word : List Char) : Reading :=
  let name := String.ofList (word.takeWhile (· != '='))
  let value := (Text.cut? ['='] word).map fun cut => String.ofList cut.2
  match flags.find? (·.long == name), value with
  | none, _ => .unknown
  | some flag, some value => if flag.takesValue then .valued [] flag.long value else .unknown
  | some flag, none => if flag.takesValue then .awaiting [] flag.long else .options [flag.long]

/-- `readShort flags cs` reads the characters behind one dash. -/
def readShort (flags : List Flag) (cs : List Char) : Reading :=
  match readCluster flags cs with
  | none => .unknown
  | some ⟨alone, none⟩ => .options alone
  | some ⟨alone, some (name, rest)⟩ =>
      if rest.isEmpty then .awaiting alone name else .valued alone name (String.ofList rest)

/-- `readWord flags word` says what a word means. -/
def readWord (flags : List Flag) (word : String) : Reading :=
  match word.toList with
  | ['-', '-'] => .endOfOptions
  | '-' :: '-' :: rest => readLong flags ('-' :: '-' :: rest)
  | '-' :: c :: rest => readShort flags (c :: rest)
  | _ => .argument

/-- `scan flags mixed words` sorts words into options and arguments; `mixed` says that options may
follow arguments. -/
def scan (flags : List Flag) (mixed : Bool) : List String → Option Words
  | [] => some ⟨[], []⟩
  | word :: words =>
      match readWord flags word with
      | .unknown => none
      | .endOfOptions => some ⟨[], words⟩
      | .argument =>
          if mixed then
            (scan flags mixed words).map fun read =>
              { read with arguments := word :: read.arguments }
          else some ⟨[], word :: words⟩
      | .options alone => (scan flags mixed words).map (withAlone alone)
      | .valued alone name value =>
          (scan flags mixed words).map fun read => withAlone alone (withOption name value read)
      | .awaiting alone name =>
          match words with
          | [] => none
          | value :: words =>
              (scan flags mixed words).map fun read => withAlone alone (withOption name value read)

/-- `helpFlag` asks for help. -/
def helpFlag : Flag := ⟨"--help", none, false⟩

/-- `jsonFlag` asks for JSON. -/
def jsonFlag : Flag := ⟨"--json", none, false⟩

/-- `configFlag` names a configuration file. -/
def configFlag : Flag := ⟨"--config", some 'c', true⟩

/-- `has words flag` says that an option is given. -/
def has (words : Words) (flag : Flag) : Bool :=
  words.options.any (·.1 == flag.long)

/-- `valuesOf words flag` is the values of an option, in their order. -/
def valuesOf (words : Words) (flag : Flag) : List String :=
  (words.options.filter (·.1 == flag.long)).map (·.2)

/-- `read flags mixed most words make` reads words with at most a number of arguments. -/
def read {α : Type} (flags : List Flag) (mixed : Bool) (most : Nat) (words : List String)
    (make : Words → α) : Parsed α :=
  match scan (helpFlag :: flags) mixed words with
  | none => .misused
  | some found =>
      if has found helpFlag then .help
      else if most < found.arguments.length then .misused
      else .ok (make found)

/-- `CheckOptions` is what the command that checks a project is told. -/
structure CheckOptions where
  path : Option String
  config : Option String
  json : Bool
  allViolations : Bool
  skipDirs : List String
  exitZero : Bool
  verbose : Bool
deriving DecidableEq

/-- `allFlag` asks for every breach of a file. -/
def allFlag : Flag := ⟨"--all-violations", none, false⟩

/-- `skipFlag` names a directory to skip. -/
def skipFlag : Flag := ⟨"--skip-dir", none, true⟩

/-- `exitZeroFlag` asks for an exit code of zero even with problems. -/
def exitZeroFlag : Flag := ⟨"--exit-zero", none, false⟩

/-- `detailsFlag` asks for the details of errors. -/
def detailsFlag : Flag := ⟨"--verbose", none, false⟩

/-- `parseCheck words` reads the words of the command that checks a project. -/
def parseCheck (words : List String) : Parsed CheckOptions :=
  read [jsonFlag, configFlag, allFlag, skipFlag, exitZeroFlag, detailsFlag] true 1 words
    fun found => {
      path := found.arguments.head?
      config := (valuesOf found configFlag).getLast?
      json := has found jsonFlag
      allViolations := has found allFlag
      skipDirs := valuesOf found skipFlag
      exitZero := has found exitZeroFlag
      verbose := has found detailsFlag }

/-- `ShowOptions` is what the command that shows the configuration is told. -/
structure ShowOptions where
  config : Option String
  json : Bool
deriving DecidableEq

/-- `parseShow words` reads the words of the command that shows the configuration. -/
def parseShow (words : List String) : Parsed ShowOptions :=
  read [configFlag, jsonFlag] true 0 words fun found =>
    ⟨(valuesOf found configFlag).getLast?, has found jsonFlag⟩

/-- `parseVersion words` reads the words of the command that shows the version: whether JSON is
asked for. -/
def parseVersion (words : List String) : Parsed Bool :=
  read [jsonFlag] true 0 words fun found => has found jsonFlag

/-- `GlobalOptions` is what stands before the command, and the words from the command on. -/
structure GlobalOptions where
  verbose : Bool
  debug : Bool
  rest : List String

/-- `verboseFlag` asks for more log events. -/
def verboseFlag : Flag := ⟨"--verbose", some 'v', false⟩

/-- `debugFlag` asks for all log events. -/
def debugFlag : Flag := ⟨"--debug", none, false⟩

/-- `parseGlobal words` reads what stands before the command. -/
def parseGlobal (words : List String) : Parsed GlobalOptions :=
  read [verboseFlag, debugFlag] false words.length words fun found =>
    ⟨has found verboseFlag, has found debugFlag, found.arguments⟩

/-- `parseGroup words` reads what stands before a command inside a group. -/
def parseGroup (words : List String) : Parsed (List String) :=
  read [] false words.length words fun found => found.arguments

end SceneLint.Command
