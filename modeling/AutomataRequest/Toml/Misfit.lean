import AutomataRequest.Mismatch
import AutomataRequest.Toml.Node

/-!
Well-formed TOML that does not fit. A misfit shows the line on which it was found with marks
under the offending text; a value without text of its own is shown by its key.
-/

namespace AutomataRequest.Toml

/-- Every number is written without an exponent, and a halfway digit is rounded up. -/
def floatStyle : Number.FloatStyle := ⟨none, none, .up⟩

inductive MisfitCause where
  | mismatch (value : Mismatch)
  | notAChoice
  | emptyChoice
  | manyChoices
  | choiceTableNotEmpty
  | choiceListNotEmpty
  | choiceNotTable (found : String)
  deriving DecidableEq, Repr

def MisfitCause.message : MisfitCause → String
  | .mismatch value => value.message floatStyle
  | .notAChoice => "wanted string or table"
  | .emptyChoice => "wanted exactly 1 element, found 0 elements"
  | .manyChoices => "wanted exactly 1 element, more than 1 element"
  | .choiceTableNotEmpty => "expected empty table"
  | .choiceListNotEmpty => "expected empty array"
  | .choiceNotTable found => "expected table, found " ++ found

structure Misfit where
  cause : MisfitCause
  span : Option Span
  deriving DecidableEq, Repr

namespace Misfit

/-- Places a misfit that has no place of its own. -/
def placedAt (misfit : Misfit) (span : Option Span) : Misfit :=
  { misfit with span := misfit.span.orElse fun _ => span }

end Misfit

/-- The lines of a text; a carriage return stays at the end of its line. -/
def splitLines : List Char → List (List Char)
  | [] => [[]]
  | char :: rest =>
      if char = '\n' then [] :: splitLines rest
      else match splitLines rest with
        | line :: lines => (char :: line) :: lines
        | [] => [[char]]

/-- The line and the column of a place, both from zero; columns count characters. -/
def locate (line column offset : Nat) : List Char → Nat × Nat
  | [] => (line, column)
  | char :: rest =>
      if offset = 0 then (line, column)
      else if char = '\n' then locate (line + 1) 0 (offset - 1) rest
      else locate line (column + 1) (offset - char.utf8Size) rest

/-- A span's line with marks under it, one at least and none past the end of the line. -/
def excerpt (text : String) (span : Span) : String :=
  let chars := text.toList
  let (line, column) := locate 0 0 span.first chars
  let content := ((splitLines chars)[line]?).getD []
  let number := Number.natText (line + 1)
  let gutter := String.ofList (List.replicate (number.length + 1) ' ')
  let marks := max 1 (min (span.last - span.first) (Text.byteCount content - column))
  "TOML parse error at line " ++ number ++ ", column " ++ Number.natText (column + 1) ++ "\n" ++
    gutter ++ "|\n" ++
    number ++ " | " ++ String.ofList content ++ "\n" ++
    gutter ++ "|" ++ String.ofList (List.replicate (column + 1) ' ') ++
    String.ofList (List.replicate marks '^') ++ "\n"

def Misfit.message (misfit : Misfit) (text : String) : String :=
  (match misfit.span with
    | some span => excerpt text span
    | none => "") ++
  misfit.cause.message ++ "\n"

end AutomataRequest.Toml
