/-!
The words of the command line: its flags, the places of its plain arguments, and the
subcommands with the flags and places that each of them has.
-/

namespace AutomataRequest.CommandLine

inductive Flag where
  | config
  | format
  | withProgram
  | help
  | encoding
  | direction
  | order
  deriving DecidableEq, Repr

namespace Flag

def all : List Flag :=
  [.config, .format, .withProgram, .help, .encoding, .direction, .order]

def long : Flag → String
  | .config => "config"
  | .format => "format"
  | .withProgram => "with-program"
  | .help => "help"
  | .encoding => "encoding"
  | .direction => "direction"
  | .order => "order"

def short? : Flag → Option Char
  | .help => some 'h'
  | .encoding => some 'r'
  | .config | .format | .withProgram | .direction | .order => none

def takesValue : Flag → Bool
  | .withProgram | .help => false
  | .config | .format | .encoding | .direction | .order => true

/-- The flag as messages show it, with a name for its value. -/
def shown (flag : Flag) : String :=
  "--" ++ flag.long ++
    (if flag.takesValue then " <" ++ String.ofList (flag.long.toList.map Char.toUpper) ++ ">"
      else "")

end Flag

/-- The place of a plain argument. -/
inductive Place where
  | operation
  | operands
  | file
  | left
  | right
  deriving DecidableEq, Repr

namespace Place

def shown : Place → String
  | .operation => "<OPERATION>"
  | .operands => "[OPERANDS]..."
  | .file => "<FILE>"
  | .left => "<LHS>"
  | .right => "<RHS>"

/-- Only operands take any number of arguments. -/
def takesMany : Place → Bool
  | .operands => true
  | .operation | .file | .left | .right => false

end Place

/-- What an argument is a value of. -/
inductive Slot where
  | ofFlag (flag : Flag)
  | ofPlace (place : Place)
  deriving DecidableEq, Repr

def Slot.shown : Slot → String
  | .ofFlag flag => flag.shown
  | .ofPlace place => place.shown

inductive Subcommand where
  | render
  | json
  | pair
  deriving DecidableEq, Repr

namespace Subcommand

def all : List Subcommand := [.render, .json, .pair]

def name : Subcommand → String
  | .render => "render"
  | .json => "json"
  | .pair => "pair"

def ofName? (text : String) : Option Subcommand :=
  all.find? fun subcommand => subcommand.name == text

end Subcommand

/-- The word that asks for help where a subcommand may stand. -/
def helpWord : String := "help"

/-- The flags and places of one level of the command line. -/
structure Layout where
  flags : List Flag
  places : List Place
  hasSubcommands : Bool

namespace Layout

/-- These flags are known at every level. -/
def commonFlags : List Flag := [.config, .format, .withProgram, .help]

def root : Layout := ⟨commonFlags, [], true⟩

def ofSubcommand : Subcommand → Layout
  | .render => ⟨commonFlags ++ [.encoding, .direction, .order], [.operation, .operands], false⟩
  | .json => ⟨commonFlags, [.file], false⟩
  | .pair => ⟨commonFlags ++ [.direction, .order], [.operation, .left, .right], false⟩

def longFlag? (layout : Layout) (name : List Char) : Option Flag :=
  layout.flags.find? fun flag => flag.long.toList == name

def shortFlag? (layout : Layout) (letter : Char) : Option Flag :=
  layout.flags.find? fun flag => flag.short? == some letter

end Layout

end AutomataRequest.CommandLine
