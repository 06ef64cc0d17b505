import AutomataRequest.CommandLine.Given

/-!
Reading a command line. The value of a flag and the arguments of a place stay pending until
something else comes, and are looked at only then; so a later argument may be found at fault
before an earlier one. What stands before a subcommand is looked at last of all.
-/

namespace AutomataRequest.CommandLine

/-- One level of a command line on the way through its arguments. -/
structure Reading where
  given : Given := {}
  pending : Option (Slot × List String) := none
  /-- The flag whose value the next argument is, unless it is a flag itself. -/
  awaiting : Option Flag := none
  /-- The number of places that are filled. -/
  filled : Nat := 0
  /-- After two hyphens every argument is plain. -/
  plainOnly : Bool := false

namespace Reading

def settle (reading : Reading) : Except UsageFault Reading :=
  match reading.pending with
  | none => .ok reading
  | some (.ofFlag flag, []) => .error (.missingValue (.ofFlag flag))
  | some (.ofFlag flag, text :: _) => do
      return { reading with given := ← reading.given.addFlag flag text, pending := none }
  | some (.ofPlace place, texts) => do
      return { reading with given := ← reading.given.addPlace place texts, pending := none }

/-- Takes a flag whose value is attached to it, or which has none. -/
def takeFlag (reading : Reading) (flag : Flag) (text : String) : Except UsageFault Reading := do
  let reading ← reading.settle
  return { reading with given := ← reading.given.addFlag flag text, awaiting := none }

/-- Takes a flag whose value is the next argument. -/
def awaitValue (reading : Reading) (flag : Flag) : Except UsageFault Reading := do
  let reading ← reading.settle
  return { reading with pending := some (.ofFlag flag, []), awaiting := some flag }

def takeValue (reading : Reading) (flag : Flag) (text : String) : Reading :=
  { reading with pending := some (.ofFlag flag, [text]), awaiting := none }

/-- Takes an argument for a place; only the arguments of one place that takes many stay
pending together. -/
def takePlain (reading : Reading) (place : Place) (text : String) :
    Except UsageFault Reading :=
  match place.takesMany, reading.pending with
  | true, some (.ofPlace .operands, texts) =>
      .ok { reading with pending := some (.ofPlace place, texts ++ [text]), awaiting := none }
  | many, _ => do
      let reading ← reading.settle
      return { reading with
        pending := some (.ofPlace place, [text])
        awaiting := none
        filled := if many then reading.filled else reading.filled + 1 }

end Reading

inductive Shape where
  | escape
  | long (name : List Char) (value : Option (List Char))
  | short (letter : Char) (rest : List Char)
  | plain
  deriving DecidableEq, Repr

/-- The name of a long flag and the value after its first equals sign. -/
def splitValue (chars : List Char) : List Char × Option (List Char) :=
  match chars.dropWhile (· ≠ '=') with
  | [] => (chars, none)
  | _ :: value => (chars.takeWhile (· ≠ '='), some value)

/-- A single hyphen is plain. -/
def Shape.ofText (text : String) : Shape :=
  match text.toList with
  | ['-', '-'] => .escape
  | '-' :: '-' :: chars => .long (splitValue chars).1 (splitValue chars).2
  | '-' :: letter :: rest => .short letter rest
  | _ => .plain

namespace Layout

def takeLong (layout : Layout) (reading : Reading) (name : List Char)
    (value : Option (List Char)) : Except Rejection Reading :=
  match layout.longFlag? name with
  | none => .error (.usage (.unexpectedArgument (String.ofList ('-' :: '-' :: name))))
  | some flag =>
      if flag.takesValue then
        match value with
        | some value => (reading.takeFlag flag (String.ofList value)).mapError .usage
        | none => (reading.awaitValue flag).mapError .usage
      else match value with
        | some value => .error (.usage (.unexpectedValue (String.ofList value) flag))
        | none =>
            if flag = .help then
              match reading.settle with
              | .ok _ => .error .helpAsked
              | .error fault => .error (.usage fault)
            else (reading.takeFlag flag "").mapError .usage

/-- The value of a short flag may follow it at once, with or without an equals sign. -/
def takeShort (layout : Layout) (reading : Reading) (letter : Char) (rest : List Char) :
    Except Rejection Reading :=
  match layout.shortFlag? letter with
  | none => .error (.usage (.unexpectedArgument (String.ofList ['-', letter])))
  | some flag =>
      if flag.takesValue then
        match rest with
        | [] => (reading.awaitValue flag).mapError .usage
        | '=' :: value => (reading.takeFlag flag (String.ofList value)).mapError .usage
        | value => (reading.takeFlag flag (String.ofList value)).mapError .usage
      else match reading.settle with
        | .ok _ => .error .helpAsked
        | .error fault => .error (.usage fault)

def takePlain (layout : Layout) (reading : Reading) (text : String) :
    Except Rejection Reading :=
  match layout.places[reading.filled]? with
  | some place => (reading.takePlain place text).mapError .usage
  | none =>
      let isWord := (Subcommand.ofName? text).isSome || text == helpWord
      if layout.hasSubcommands && !(reading.plainOnly && isWord) then
        .error (.usage (.unknownSubcommand text))
      else .error (.usage (.unexpectedArgument text))

def take (layout : Layout) (reading : Reading) (text : String) : Except Rejection Reading :=
  if reading.plainOnly then layout.takePlain reading text
  else match Shape.ofText text with
    | .escape => .ok { reading with plainOnly := true }
    | .long name value => layout.takeLong reading name value
    | .short letter rest => layout.takeShort reading letter rest
    | .plain =>
        match reading.awaiting with
        | some flag => .ok (reading.takeValue flag text)
        | none => layout.takePlain reading text

/-- Reads the arguments of a level without subcommands. -/
def readAll (layout : Layout) : Reading → List String → Except Rejection Reading
  | reading, [] => .ok reading
  | reading, text :: rest => do layout.readAll (← layout.take reading text) rest

end Layout

inductive Request where
  | render (command : Command)
  | json (file : String)
  | pair (request : PairRequest)
  deriving DecidableEq, Repr

structure Invocation where
  config : Option String
  format : OutputFormat
  withProgram : Bool
  request : Request
  deriving DecidableEq, Repr

namespace Given

/-- The request of a subcommand, if everything it requires was given. -/
def request? (given : Given) : Subcommand → Option Request
  | .render => do
      some (.render
        { encoding := ← given.encoding
          operation := ← given.operation
          options := given.options
          operands := given.operands })
  | .json => given.file.map .json
  | .pair => do
      some (.pair
        { operation := ← given.operation
          options := given.options
          left := ← given.left
          right := ← given.right })

/-- A value given after the subcommand wins over one given before it. -/
def invocation (outer inner : Given) (request : Request) : Invocation :=
  { config := inner.config.orElse fun _ => outer.config
    format := (inner.format.orElse fun _ => outer.format).getD .lines
    withProgram := inner.withProgram || outer.withProgram
    request }

end Given

/-- Reads the arguments of a subcommand to its end. -/
def readSubcommand (subcommand : Subcommand) (args : List String) :
    Except Rejection (Given × Request) := do
  let reading ← (Layout.ofSubcommand subcommand).readAll {} args
  let reading ← reading.settle.mapError .usage
  match reading.given.conflict? with
  | some fault => .error (.usage fault)
  | none =>
      match reading.given.request? subcommand with
      | some request => return (reading.given, request)
      | none => .error (.usage .missingArguments)

/-- The help word takes the name of a subcommand and nothing more. -/
def readHelp : List String → Rejection
  | [] => .helpAsked
  | [text] =>
      if (Subcommand.ofName? text).isSome || text == helpWord then .helpAsked
      else .usage (.unknownSubcommand text)
  | text :: next :: _ =>
      if (Subcommand.ofName? text).isSome || text == helpWord then
        .usage (.unknownSubcommand next)
      else .usage (.unknownSubcommand text)

def endWithoutSubcommand (reading : Reading) : Rejection :=
  match reading.settle with
  | .error fault => .usage fault
  | .ok reading =>
      if reading.given.seen.isEmpty then .helpNeeded else .usage .missingSubcommand

/-- Reads the arguments up to the subcommand, the subcommand's, and last what is pending. -/
def readRoot : Reading → List String → Except Rejection Invocation
  | reading, [] => .error (endWithoutSubcommand reading)
  | reading, text :: rest =>
      let isWordPlace := !reading.plainOnly && reading.awaiting.isNone
      match if isWordPlace then Subcommand.ofName? text else none with
      | some subcommand => do
          let (inner, request) ← readSubcommand subcommand rest
          let outer ← reading.settle.mapError .usage
          return outer.given.invocation inner request
      | none =>
          if isWordPlace && text == helpWord then .error (readHelp rest)
          else do readRoot (← Layout.root.take reading text) rest

def parse (args : List String) : Except Rejection Invocation := readRoot {} args

end AutomataRequest.CommandLine
