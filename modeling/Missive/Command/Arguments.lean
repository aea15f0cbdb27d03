import Missive.Compile
/-!
# Command-line arguments

Options may stand in any order, before and behind the kind of the definition.  The value of an
option follows it as the next argument, or behind an equals sign, or right behind its letter.

* `Setting` -- the options that take a value;
* `Arguments`, `Arguments.read` -- what a command line asks for.
-/

namespace Missive.Command

/-- The options that take a value. -/
inductive Setting where
  | input
  | output
  | package
  | config
  deriving DecidableEq, Repr

namespace Setting

/-- The option of this long name. -/
def ofName? : String → Option Setting
  | "in" => some input
  | "out" => some output
  | "package" => some package
  | "config" => some config
  | _ => none

/-- The option of this letter. -/
def ofLetter? : Char → Option Setting
  | 'i' => some input
  | 'o' => some output
  | 'p' => some package
  | 'c' => some config
  | _ => none

/-- Whether an option takes this value.  The path of a file is not empty. -/
def accepts (s : Setting) (value : String) : Bool :=
  s = package || !value.isEmpty

end Setting

/-- The arguments read so far. -/
structure Draft where
  kind : Option DefinitionKind
  settings : List (Setting × String)
  dryRun : Bool

/-- What a command line asks for. -/
inductive Arguments where
  | compile (job : Job) (config : Option Path)
  | help
  | version
  /-- The command line is wrong. -/
  | misuse

namespace Draft

/-- Nothing read yet. -/
def empty : Draft := ⟨none, [], false⟩

/-- The value of an option. -/
def value? (d : Draft) (s : Setting) : Option String :=
  d.settings.lookup s

/-- Sets the value of an option, which can be done once. -/
def set? (d : Draft) (s : Setting) (value : String) : Option Draft :=
  if (d.value? s).isSome || !s.accepts value then none
  else some { d with settings := (s, value) :: d.settings }

/-- Asks for a dry run, which can be done once. -/
def setDryRun? (d : Draft) : Option Draft :=
  if d.dryRun then none else some { d with dryRun := true }

/-- Sets the kind of the definition, which can be done once. -/
def setKind? (d : Draft) (word : String) : Option Draft :=
  match d.kind, DefinitionKind.ofName? word with
  | none, some kind => some { d with kind := some kind }
  | _, _ => none

/-- The request of a complete command line. -/
def finish (d : Draft) : Arguments :=
  match d.kind, d.value? .input with
  | some kind, some input =>
    .compile
      ⟨kind, .ofText input, (d.value? .output).map .ofText, d.value? .package, d.dryRun⟩
      ((d.value? .config).map .ofText)
  | _, _ => .misuse

end Draft

/-- The sort of an argument. -/
inductive Argument where
  /-- Two hyphens: what follows is no option. -/
  | divider
  /-- A long name, with the text behind an equals sign. -/
  | long (name : String) (value : Option String)
  /-- A letter, with the text behind it. -/
  | short (letter : Char) (rest : List Char)
  | word (text : String)

/-- The sort of an argument.  A lone hyphen is a word. -/
def Argument.read (text : String) : Argument :=
  match text.toList with
  | ['-', '-'] => divider
  | '-' :: '-' :: rest =>
    match Text.splitOnce '=' rest with
    | some (name, value) => long (String.ofList name) (some (String.ofList value))
    | none => long (String.ofList rest) none
  | '-' :: letter :: rest => short letter rest
  | _ => word text

/-- Whether an argument can only be a value. -/
def Argument.isWord : Argument → Bool
  | word _ => true
  | _ => false

/-- The value right behind the letter of an option: an equals sign in front is dropped. -/
def attached? : List Char → Option String
  | [] => none
  | '=' :: rest => some (String.ofList rest)
  | rest => some (String.ofList rest)

namespace Arguments

/-- What an argument asks for on its own. -/
inductive Demand where
  | setting (s : Setting) (value : Option String)
  | dryRun
  | help
  | version
  | kind (word : String)
  | onlyWords
  | unknown

/-- The demand of an argument. -/
def demand : Argument → Demand
  | .divider => .onlyWords
  | .long name value =>
    match Setting.ofName? name, value with
    | some s, value => .setting s value
    | none, some _ => .unknown
    | none, none =>
      if name == "dry-run" then .dryRun
      else if name == "help" then .help
      else if name == "version" then .version
      else .unknown
  | .short letter rest =>
    match Setting.ofLetter? letter with
    | some s => .setting s (attached? rest)
    | none => if letter == 'h' then .help else if letter == 'V' then .version else .unknown
  | .word text => .kind text

/-- Reads the words behind a divider. -/
def readWords (d : Draft) : List String → Arguments
  | [] => d.finish
  | word :: rest =>
    match d.setKind? word with
    | some d => readWords d rest
    | none => .misuse

/-- Reads the arguments behind those already read. -/
def readFrom (d : Draft) : List String → Arguments
  | [] => d.finish
  | text :: rest =>
    match demand (Argument.read text) with
    | .help => .help
    | .version => .version
    | .unknown => .misuse
    | .onlyWords => readWords d rest
    | .dryRun =>
      match d.setDryRun? with
      | some d => readFrom d rest
      | none => .misuse
    | .kind word =>
      match d.setKind? word with
      | some d => readFrom d rest
      | none => .misuse
    | .setting s (some value) =>
      match d.set? s value with
      | some d => readFrom d rest
      | none => .misuse
    | .setting s none =>
      match rest with
      | [] => .misuse
      | value :: rest =>
        if (Argument.read value).isWord then
          match d.set? s value with
          | some d => readFrom d rest
          | none => .misuse
        else .misuse

/-- Reads a command line. -/
def read (args : List String) : Arguments :=
  readFrom .empty args

end Arguments

end Missive.Command
