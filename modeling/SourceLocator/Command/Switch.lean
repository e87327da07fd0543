/-!
# Commands and their options

The program has two commands, each a `Verb`, and options of its own before them.  A `Switch`
is an option under one spelling with two dashes; some can also be given by one letter, and
some are followed by a value.
-/

namespace SourceLocator.Command

/-- The commands. -/
inductive Verb where
  | locate
  | check
deriving DecidableEq

namespace Verb

/-- The commands in the order in which they are listed. -/
def all : List Verb := [.locate, .check]

/-- The name of a command. -/
def name : Verb → String
  | .locate => "locate"
  | .check => "check"

/-- The command of a name. -/
def ofName? (name : String) : Option Verb :=
  all.find? fun verb => verb.name == name

end Verb

/-- The options. -/
inductive Switch where
  | verbose
  | installCompletion
  | showCompletion
  | source
  | package
  | allSources
  | exact
  | followLinks
  | keepLinks
  | help
deriving DecidableEq

namespace Switch

/-- The spelling of an option. -/
def spelling : Switch → String
  | .verbose => "--verbose"
  | .installCompletion => "--install-completion"
  | .showCompletion => "--show-completion"
  | .source => "--src"
  | .package => "--pkg"
  | .allSources => "--all"
  | .exact => "--exact"
  | .followLinks => "--follow-symlinks"
  | .keepLinks => "--no-follow-symlinks"
  | .help => "--help"

/-- The letter by which an option can also be given. -/
def letter? : Switch → Option Char
  | .verbose => some 'v'
  | .help => some 'h'
  | _ => none

/-- Whether a value follows the option. -/
def takesValue : Switch → Bool
  | .source | .package => true
  | _ => false

/-- The options that can be given before a command, and behind each command. -/
def available : Option Verb → List Switch
  | none => [.verbose, .installCompletion, .showCompletion, .help]
  | some .locate => [.source, .package, .allSources, .exact, .followLinks, .keepLinks, .help]
  | some .check => [.package, .exact, .help]

end Switch

end SourceLocator.Command
