import AutomataRequest.Log.Event
import AutomataRequest.Text.Blank
import AutomataRequest.Text.Symbol

/-!
Log filters. A filter is a list of directives. A directive sets the level of every target that
begins with a given text, or of all targets, and of the directives that apply the one with the
longest target decides. An event that no directive covers is silent.
-/

namespace AutomataRequest.Log

/-- What a directive asks of an event besides its target. -/
inductive Condition where
  | none
  | field (name : String)
  /-- The event stands in a scope with some name or value. -/
  | scope
  deriving DecidableEq, Repr

namespace Condition

/-- The events here stand in no scope. -/
def holds (condition : Condition) (event : Event) : Bool :=
  match condition with
  | .none => true
  | .field name => (event.field? "" name).isSome
  | .scope => false

def fieldName : Condition → String
  | .field name => name
  | .none | .scope => ""

end Condition

structure Directive where
  target : Option String := none
  condition : Condition := .none
  /-- None silences what the directive covers. -/
  level : Option Level
  deriving DecidableEq, Repr

namespace Directive

/-- A rank of no level is smaller than that of every level. -/
def levelRank (directive : Directive) : Nat := (directive.level.map Level.rank).getD 0

def covers (directive : Directive) (event : Event) : Bool :=
  (match directive.target with
    | some start => start.toList.isPrefixOf event.target.toList
    | none => true) && directive.condition.holds event

/-- A directive for all targets is the least specific. -/
def specificity (directive : Directive) : Nat :=
  match directive.target with
  | some start => start.utf8ByteSize + 1
  | none => 0

/-- Of two directives with the same target the one decides that asks for a field, and if both
do, the one whose field comes later in the alphabet. -/
def outranks (first second : Directive) : Bool :=
  if first.specificity = second.specificity then
    second.condition.fieldName < first.condition.fieldName
  else second.specificity < first.specificity

end Directive

abbrev Filter := List Directive

namespace Filter

/-- The first in rank of the directives that cover an event, the later one of two that are
equal in rank. -/
def decisive (filter : Filter) (event : Event) : Option Directive :=
  (filter.filter (·.covers event)).foldl
    (fun best directive => match best with
      | some best => if best.outranks directive then some best else some directive
      | none => some directive)
    none

def admits (filter : Filter) (event : Event) : Bool :=
  match filter.decisive event with
  | some directive => event.level.rank ≤ directive.levelRank
  | none => false

def readRank (text : List Char) : Option Nat :=
  let digits := match text with
    | '+' :: rest => rest
    | _ => text
  if !digits.isEmpty && digits.all Number.isDecimalDigit then
    some (Number.digitsValue 10 (digits.map fun digit => digit.toNat - '0'.toNat))
  else none

def levelOfRank : Nat → Option (Option Level)
  | 0 => some none
  | 1 => some (some .error)
  | 2 => some (some .warn)
  | 3 => some (some .info)
  | 4 => some (some .debug)
  | 5 => some (some .trace)
  | _ => none

/-- A level by its name in any case or by its rank; zero and "off" silence. -/
def readLevel (text : List Char) : Option (Option Level) :=
  match readRank text with
  | some rank => levelOfRank rank
  | none => match String.ofList (text.map Char.toLower) with
    | "off" => some none
    | "error" => some (some .error)
    | "warn" => some (some .warn)
    | "info" => some (some .info)
    | "debug" => some (some .debug)
    | "trace" => some (some .trace)
    | _ => none

/-- A level that is left out lets everything through. -/
def readAssignedLevel (text : List Char) : Option (Option Level) :=
  if text.isEmpty then some (some .trace) else readLevel text

def isDirectiveStart (char : Char) : Bool :=
  char == '-' || char == ':' || char == '_' || Text.isLetterOrDigit char

/-- The condition between square brackets: the name of a scope, a field between braces, or a
field of a scope. A field with a value is one of a scope. Answers the condition, where the
field's text has been cut by `cut`, and the place behind the closing bracket. -/
def readCondition (cut : Nat → Nat → List Char) (place : Nat) (chars : List Char) :
    Option (Condition × Nat) :=
  let scope := chars.takeWhile fun char => char ≠ ']' && char ≠ '{'
  match chars.drop scope.length with
  | ']' :: _ => some (.scope, place + scope.length + 1)
  | '{' :: inner =>
      let size := (inner.takeWhile (· ≠ '}')).length
      let start := place + scope.length + 1
      match inner.drop size with
      | '}' :: ']' :: _ =>
          let field := cut start size
          if size = 0 then none
          else if scope.isEmpty && !field.contains '=' then
            some (.field (String.ofList field), start + size + 2)
          else some (.scope, start + size + 2)
      | _ => none
  | _ => none

/-- A level alone, a target alone, or a target, a condition or both with their level. Where
the parts begin and end is found without the blanks around a directive, but they are cut from
the text with its blanks, so a directive with blanks in front is for nothing that exists. -/
def readDirective (text : List Char) : Option Directive :=
  let trimmed := Text.trim text
  let cut := fun start size => (text.drop start).take size
  let size := (trimmed.takeWhile fun char => char ≠ '=' && char ≠ '[').length
  let target := if size = 0 then none else some (String.ofList (cut 0 size))
  if trimmed.take 1 ≠ ['['] && !(trimmed.take 1).any isDirectiveStart then none
  else match trimmed.drop size with
    | [] => match readLevel text with
      | some level => some { level }
      | none => some { target := String.ofList text, level := some .trace }
    | '[' :: bracketed => do
        let (condition, place) ← readCondition cut (size + 1) bracketed
        match trimmed.drop place with
        | [] => some { target, condition, level := some .trace }
        | '=' :: _ =>
            some { target, condition, level := ← readAssignedLevel (text.drop (place + 1)) }
        | _ => none
    | _ => do some { target, level := ← readAssignedLevel (text.drop (size + 1)) }

def commaParts : List Char → List (List Char)
  | [] => [[]]
  | char :: rest =>
      if char = ',' then [] :: commaParts rest
      else match commaParts rest with
        | part :: parts => (char :: part) :: parts
        | [] => [[char]]

def errorsOnly : Filter := [{ level := some .error }]

/-- A text without directives lets errors through. -/
def ofText? (text : String) : Option Filter :=
  match (commaParts text.toList).filter (fun part => !part.isEmpty) with
  | [] => some errorsOnly
  | parts => parts.mapM readDirective

end Filter

end AutomataRequest.Log
