/-!
# Arguments of the command line

The first argument names a command; the others are its operands and options, in any order. An option
has a long name behind two hyphens and a short one behind one. The value of an option is the next
argument or is attached to the option, with an equals sign or, to a short name, without. Short names
can be put together. Behind two hyphens alone everything is an operand.

No option may be given twice, and where a path is expected the empty text is none.
-/

namespace MethodCorpus.CommandLine

/-- What is asked of the program. -/
inductive Command where
  /-- Write an initial configuration. -/
  | init (path input : Option String)
  /-- Run a configuration. -/
  | run (config : String) (asJson : Bool)
  /-- Show the methods of one source. -/
  | split (file parser : String)
  deriving DecidableEq

/-- An option of a command. -/
structure OptionSpec where
  long : String
  short : Char
  takesValue : Bool

/-- The arguments of a command, sorted out. -/
structure Sorted where
  /-- The options by their long names, with their values; one without a value has the empty text. -/
  options : List (String × String)
  operands : List String

namespace Sorted

/-- The arguments with one option more in front. -/
def withOption (sorted : Sorted) (name value : String) : Sorted :=
  { sorted with options := (name, value) :: sorted.options }

/-- The arguments with one operand more in front. -/
def withOperand (sorted : Sorted) (operand : String) : Sorted :=
  { sorted with operands := operand :: sorted.operands }

/-- The value of an option that may be given once; nothing at all if it was given twice. -/
def value? (sorted : Sorted) (name : String) : Option (Option String) :=
  match sorted.options.filter (·.1 == name) with
  | [] => some none
  | [(_, value)] => some (some value)
  | _ => none

end Sorted

/-- Whether an argument cannot be a value, since it is written like an option. -/
def isOptionLike : List Char → Bool
  | '-' :: _ :: _ => true
  | _ => false

/-- What one argument of options says. -/
structure Cluster where
  /-- Options that are complete, with their values. -/
  complete : List (String × String)
  /-- The option whose value is the next argument. -/
  pending : Option String

/-- Sorts out the short names in one argument. -/
def readShorts (specs : List OptionSpec) : List Char → Option Cluster
  | [] => some ⟨[], none⟩
  | c :: rest =>
    match specs.find? (·.short == c) with
    | none => none
    | some spec =>
      if spec.takesValue then
        match rest with
        | [] => some ⟨[], some spec.long⟩
        | '=' :: value => some ⟨[(spec.long, String.ofList value)], none⟩
        | value => some ⟨[(spec.long, String.ofList value)], none⟩
      else
        (readShorts specs rest).map fun cluster =>
          { cluster with complete := (spec.long, "") :: cluster.complete }

/-- Sorts out an argument with a long name. -/
def readLong (specs : List OptionSpec) (text : List Char) : Option Cluster :=
  let name := String.ofList (text.takeWhile (· != '='))
  match specs.find? (·.long == name) with
  | none => none
  | some spec =>
    match text.dropWhile (· != '='), spec.takesValue with
    | [], true => some ⟨[], some name⟩
    | [], false => some ⟨[(name, "")], none⟩
    | _ :: value, true => some ⟨[(name, String.ofList value)], none⟩
    | _ :: _, false => none

/-- What an argument says if it holds options; an operand holds none. -/
def readOptions (specs : List OptionSpec) (argument : List Char) : Option (Option Cluster) :=
  match argument with
  | '-' :: '-' :: text => (readLong specs text).map some
  | '-' :: c :: text => (readShorts specs (c :: text)).map some
  | _ => some none

/-- Sorts out the arguments of a command. -/
def sort? (specs : List OptionSpec) : List String → Option Sorted
  | [] => some ⟨[], []⟩
  | argument :: rest =>
    if argument = "--" then some ⟨[], rest⟩
    else match readOptions specs argument.toList with
      | none => none
      | some none => (sort? specs rest).map (·.withOperand argument)
      | some (some ⟨complete, none⟩) =>
        (sort? specs rest).map fun sorted =>
          { sorted with options := complete ++ sorted.options }
      | some (some ⟨complete, some name⟩) =>
        match rest with
        | [] => none
        | value :: rest =>
          if isOptionLike value.toList then none
          else (sort? specs rest).map fun sorted =>
            let sorted := sorted.withOption name value
            { sorted with options := complete ++ sorted.options }

/-- A text that is a path. -/
def path? (text : String) : Option String := if text.isEmpty then none else some text

/-- A text that is a path, if there is one. -/
def optionalPath? : Option String → Option (Option String)
  | none => some none
  | some text => (path? text).map some

/-- The option of `init`. -/
def inputSpec : OptionSpec := ⟨"input", 'i', true⟩

/-- The option of `run`. -/
def jsonSpec : OptionSpec := ⟨"json", 'j', false⟩

/-- The option of `split`. -/
def parserSpec : OptionSpec := ⟨"parser", 'p', true⟩

/-- Reads the arguments of `init`. -/
def initCommand? (arguments : List String) : Option Command := do
  let sorted ← sort? [inputSpec] arguments
  let input ← optionalPath? (← sorted.value? inputSpec.long)
  match sorted.operands with
  | [] => return .init none input
  | [path] => return .init (some (← path? path)) input
  | _ => none

/-- Reads the arguments of `run`. -/
def runCommand? (arguments : List String) : Option Command := do
  let sorted ← sort? [jsonSpec] arguments
  let asJson := (← sorted.value? jsonSpec.long).isSome
  match sorted.operands with
  | [config] => return .run (← path? config) asJson
  | _ => none

/-- Reads the arguments of `split`. Without the option a source is read itself, and not its dump. -/
def splitCommand? (arguments : List String) : Option Command := do
  let sorted ← sort? [parserSpec] arguments
  let parser := (← sorted.value? parserSpec.long).getD "srcml"
  match sorted.operands with
  | [file] => return .split (← path? file) parser
  | _ => none

/-- The command that arguments ask for, if they are used rightly. -/
def command? : List String → Option Command
  | "init" :: arguments => initCommand? arguments
  | "run" :: arguments => runCommand? arguments
  | "split" :: arguments => splitCommand? arguments
  | _ => none

end MethodCorpus.CommandLine
