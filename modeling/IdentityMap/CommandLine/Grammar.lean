/-
The grammar of command lines.

A command has options, and either subcommands or arguments.  Options may stand anywhere
after their command; those of the program may stand after any command, and the one that
stands last counts.  Within one command an option stands at most once.  The value of an
option follows it as the next word, or behind an equals sign, or, after a short name,
right away.  A word that starts with a dash is an option and never a value, except for
the dash alone and for all words after a double dash.
-/
namespace IdentityMap.CommandLine

/-- What a word has to be like, to be taken as a value. -/
abbrev Check := String → Bool

/-- An option of a command. -/
structure OptionSpec where
  long : String
  short : Option Char := none
  /-- Accepts the value; an option without it is a switch. -/
  value : Option Check := none

/-- A command. -/
inductive CommandSpec where
  /-- A command with subcommands. -/
  | group (name : String) (options : List OptionSpec) (commands : List CommandSpec)
  /-- A command that does something: its options, its arguments, and the options that
  exclude each other. -/
  | leaf (name : String) (options : List OptionSpec) (arguments : List Check)
      (exclusive : List String)

namespace CommandSpec

def name : CommandSpec → String
  | .group name _ _ | .leaf name _ _ _ => name

def options : CommandSpec → List OptionSpec
  | .group _ options _ | .leaf _ options _ _ => options

/-- The subcommand of a name. -/
def child? : CommandSpec → String → Option CommandSpec
  | .group _ _ commands, name => commands.find? (·.name == name)
  | .leaf _ _ _ _, _ => none

def hasChildren : CommandSpec → Bool
  | .group _ _ _ => true
  | .leaf _ _ _ _ => false

end CommandSpec

/-- A program: options that may stand anywhere, and commands. -/
structure Program where
  options : List OptionSpec
  commands : List CommandSpec

/-- Why no command is run. -/
inductive Ending where
  | misused
  | help
  | version
deriving DecidableEq, Repr

/-- A command line that fits the grammar. -/
structure Parsed where
  /-- The names of the command and of those it belongs to. -/
  path : List String := []
  /-- The options by their long names, in the order in which they stand.  A switch has an
  empty value. -/
  options : List (String × String) := []
  arguments : List String := []
deriving DecidableEq, Repr

namespace Parsed

/-- The value of an option. -/
def value? (p : Parsed) (name : String) : Option String :=
  p.options.reverse.lookup name

/-- The option stands on the line. -/
def has (p : Parsed) (name : String) : Bool :=
  (p.value? name).isSome

end Parsed

/-- How far a command line was read. -/
structure Progress where
  command : CommandSpec
  /-- The options that may stand after any command. -/
  everywhere : List OptionSpec
  parsed : Parsed := {}
  /-- The options that were given to this command itself. -/
  given : List String := []
  /-- The option whose value has to follow. -/
  awaiting : Option OptionSpec := none
  /-- A double dash went by. -/
  onlyArguments : Bool := false

namespace Progress

/-- Notes an option that stands on the line, unless it stands there a second time. -/
def give (p : Progress) (option : OptionSpec) (value : String) : Except Ending Progress :=
  if p.given.contains option.long || !(option.value.getD fun _ => true) value then
    .error .misused
  else
    .ok { p with
      parsed := { p.parsed with options := p.parsed.options ++ [(option.long, value)] }
      given := option.long :: p.given
      awaiting := none }

/-- An option with the value attached to it, if one is. -/
def take (p : Progress) (option : OptionSpec) (attached : Option String) :
    Except Ending Progress :=
  match option.value, attached with
  | some _, some value => p.give option value
  | some _, none => .ok { p with awaiting := some option }
  | none, some _ => .error .misused
  | none, none => p.give option ""

/-- The options that may stand here. -/
def known (p : Progress) : List OptionSpec :=
  p.command.options ++ p.everywhere

/-- The program itself, and none of its commands, was named so far. -/
def atRoot (p : Progress) : Bool :=
  p.parsed.path.isEmpty

/-- A word that starts with two dashes. -/
def long (p : Progress) (word : String) : Except Ending Progress :=
  let (name, attached) :=
    match word.splitOn "=" with
    | name :: first :: rest => (name, some ("=".intercalate (first :: rest)))
    | _ => (word, none)
  match p.known.find? (·.long == name) with
  | some option => p.take option attached
  | none =>
    if attached.isSome then .error .misused
    else if name == "help" then .error .help
    else if name == "version" && p.atRoot then .error .version
    else .error .misused

/-- The letters after a single dash.  A letter whose option has a value is the last one. -/
def short (p : Progress) : List Char → Except Ending Progress
  | [] => .ok p
  | c :: rest =>
    match p.known.find? (·.short == some c) with
    | some option =>
      if option.value.isSome then
        match rest with
        | [] => p.take option none
        | '=' :: value | value => p.take option (some (String.ofList value))
      else (p.take option none).bind fun p => p.short rest
    | none =>
      if c == 'h' then .error .help
      else if c == 'V' && p.atRoot then .error .version
      else .error .misused

/-- A word that is an argument. -/
def argument (p : Progress) (word : String) : Except Ending Progress :=
  match p.command with
  | .group _ _ _ => .error .misused
  | .leaf _ _ checks _ =>
    match checks[p.parsed.arguments.length]? with
    | none => .error .misused
    | some check =>
      if check word then
        .ok { p with parsed := { p.parsed with arguments := p.parsed.arguments ++ [word] } }
      else .error .misused

/-- Goes on with a subcommand. -/
def enter (p : Progress) (command : CommandSpec) : Progress :=
  { p with
    command
    parsed := { p.parsed with path := p.parsed.path ++ [command.name] }
    given := [] }

/-- One word of the line. -/
def word (p : Progress) (word : String) : Except Ending Progress :=
  if p.onlyArguments then p.argument word
  else
    match p.awaiting, word.toList with
    | none, ['-', '-'] => .ok { p with onlyArguments := true }
    | none, '-' :: '-' :: rest => p.long (String.ofList rest)
    | none, '-' :: c :: rest => p.short (c :: rest)
    | some _, '-' :: _ :: _ => .error .misused
    | some option, _ => p.give option word
    | none, _ =>
      match p.command.child? word with
      | some command => .ok (p.enter command)
      | none => p.argument word

/-- Help is asked for about the command that these words lead to. -/
def helpAbout (command : CommandSpec) : List String → Ending
  | [] => .help
  | name :: rest =>
    match command.child? name with
    | some child => helpAbout child rest
    | none => if name == "help" && command.hasChildren && rest.isEmpty then .help else .misused

/-- The word asks for help with a subcommand. -/
def asksForHelp (p : Progress) (word : String) : Bool :=
  word == "help" && p.command.hasChildren && p.awaiting.isNone && !p.onlyArguments

/-- The line ends here: nothing that has to be there is missing. -/
def finish (p : Progress) : Except Ending Parsed :=
  match p.command with
  | .group _ _ _ => .error .misused
  | .leaf _ _ checks exclusive =>
    if p.awaiting.isSome || p.parsed.arguments.length != checks.length ||
        1 < (exclusive.filter p.parsed.has).length then .error .misused
    else .ok p.parsed

/-- The words of a line, from where it was read to. -/
def words (p : Progress) : List String → Except Ending Parsed
  | [] => p.finish
  | first :: rest =>
    if p.asksForHelp first then .error (helpAbout p.command rest)
    else (p.word first).bind fun p => p.words rest

end Progress

/-- Reads the words after the name of the program. -/
def Program.parse (program : Program) (arguments : List String) : Except Ending Parsed :=
  ({ command := .group "" [] program.commands, everywhere := program.options } :
    Progress).words arguments

end IdentityMap.CommandLine
