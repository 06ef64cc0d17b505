import AutomataRequest.Number.Binary64
import AutomataRequest.Toml.Cursor

/-!
TOML documents as trees. Tables keep their entries in the order in which they were written,
each under a key that knows where it stands.
-/

namespace AutomataRequest.Toml

structure Key where
  text : String
  span : Span
  deriving DecidableEq, Repr

inductive Scalar where
  | string (value : String)
  | integer (value : Int)
  | floating (value : Number.Binary64)
  | boolean (value : Bool)
  | datetime
  deriving DecidableEq, Repr

/-- How a table came to be: it was written out, it is on the way to a table with a header, or
it is on the way to a dotted key. -/
inductive Origin where
  | written
  | implied
  | dotted
  deriving DecidableEq, Repr

/-- Only what has text of its own has a span. The elements of `tables` are tables with
headers in double brackets. -/
inductive Node where
  | scalar (value : Scalar) (span : Span)
  | array (items : List Node) (span : Span)
  | table (inlined : Bool) (origin : Origin) (span : Option Span) (entries : List (Key × Node))
  | tables (items : List Node) (span : Option Span)

abbrev Entries := List (Key × Node)

namespace Node

def span? : Node → Option Span
  | .scalar _ span => some span
  | .array _ span => some span
  | .table _ _ span _ => span
  | .tables _ span => span

def ofScalar (value : Scalar) (start next : Cursor) : Node := .scalar value (start.spanTo next)

end Node

namespace Entries

def find? (entries : Entries) (name : String) : Option Node :=
  (List.find? (fun entry => entry.1.text == name) entries).map (·.2)

/-- Replaces the value of a name where it stands, under the key that it has. -/
def replace (entries : Entries) (name : String) (node : Node) : Entries :=
  entries.map fun entry => if entry.1.text == name then (entry.1, node) else entry

def remove (entries : Entries) (name : String) : Entries :=
  entries.filter fun entry => entry.1.text != name

/-- Adds an entry at the end; a name that is taken is refused. -/
def add? (entries : Entries) (key : Key) (node : Node) : Option Entries :=
  if (entries.find? key.text).isSome then none else some (entries ++ [(key, node)])

/-- Changes the table at the end of a path, making the tables that are missing on the way.
A path of a dotted key may not enter a table that was written out, and no path may enter a
value that is no table of the same notation. The last of several tables with the same header
in double brackets stands for all of them. -/
def alter {Result : Type} (inlined dotted : Bool)
    (change : Origin → Entries → Option (Entries × Result)) :
    List Key → Origin → Entries → Option (Entries × Result)
  | [], origin, entries => change origin entries
  | key :: path, _, entries =>
      match entries.find? key.text with
      | none => do
          let made := if dotted then .dotted else .implied
          let (inner, result) ← alter inlined dotted change path made []
          some (entries ++ [(key, .table inlined made none inner)], result)
      | some (.table inlinedThere origin span inner) =>
          if inlinedThere ≠ inlined || (dotted && origin == .written) then none
          else do
            let (inner, result) ← alter inlined dotted change path origin inner
            some (entries.replace key.text (.table inlined origin span inner), result)
      | some (.tables items span) =>
          match items.reverse with
          | .table inlinedThere origin itemSpan inner :: before => do
              let (inner, result) ← alter inlined dotted change path origin inner
              let item := .table inlinedThere origin itemSpan inner
              some (entries.replace key.text (.tables (before.reverse ++ [item]) span), result)
          | _ => none
      | some _ => none

/-- Adds the value of a dotted key. A table that is made by dotted keys takes dotted keys
only, and any other table takes plain ones only. -/
def addAt? (inlined : Bool) (path : List Key) (key : Key) (node : Node) (origin : Origin)
    (entries : Entries) : Option Entries :=
  (alter inlined true (fun origin inner =>
      if (origin == .dotted) == path.isEmpty then none
      else (inner.add? key node).map (·, ())) path origin entries).map (·.1)

end Entries

end AutomataRequest.Toml
