import AutomataRequest.Toml.ReadValue

/-!
Reading TOML documents. The table whose header was read last is kept apart from the others
until the next header, and joins them then; a table that was only implied by longer headers
is taken up again by its own header and moves to the end.
-/

namespace AutomataRequest.Toml

/-- The table that takes the entries of the lines that come next. Before the first header it
is the document itself, whose path is empty. -/
structure OpenTable where
  path : List Key
  isElement : Bool
  span : Option Span
  entries : Entries

namespace OpenTable

def document : OpenTable := ⟨[], false, none, []⟩

def toNode (table : OpenTable) : Node := .table false .written table.span table.entries

/-- Adds the entry of a line. A table with a header reaches from it to its last value. -/
def add? (table : OpenTable) (path : List Key) (key : Key) (node : Node) :
    Option OpenTable := do
  let entries ← table.entries.addAt? false path key node .written
  let span := match table.span, node.span? with
    | some header, some value => some ⟨header.first, value.last⟩
    | span, _ => span
  some { table with entries, span }

end OpenTable

/-- The tables that are complete, and the open one. -/
structure Builder where
  root : Entries
  current : OpenTable

namespace Builder

def start : Builder := ⟨[], .document⟩

/-- Several tables with the same header reach from the first to the last. -/
def tablesSpan (items : List Node) : Option Span := do
  let first ← (← items.head?).span?
  let last ← (← items.getLast?).span?
  some ⟨first.first, last.last⟩

/-- Lets the open table join the others. -/
def close (builder : Builder) : Option Entries :=
  match builder.current.path.getLast? with
  | none => some builder.current.entries
  | some key =>
      let node := builder.current.toNode
      let join (entries : Entries) : Option Entries :=
        if builder.current.isElement then
          match entries.find? key.text with
          | some (.tables items _) =>
              let items := items ++ [node]
              some (entries.replace key.text (.tables items (tablesSpan items)))
          | _ => none
        else entries.add? key node
      (Entries.alter false false (fun _ entries => (join entries).map (·, ()))
        builder.current.path.dropLast .written builder.root).map (·.1)

/-- Opens a table by its header. Only a table that was implied may have been there before. -/
def openTable (builder : Builder) (path : List Key) (key : Key) (span : Span) :
    Option Builder := do
  let root ← builder.close
  let takeUp (entries : Entries) : Option (Entries × Entries) :=
    match entries.find? key.text with
    | none => some (entries, [])
    | some (.table false .implied _ inner) => some (entries.remove key.text, inner)
    | some _ => none
  let (root, inner) ← Entries.alter false false (fun _ => takeUp) path .written root
  some ⟨root, ⟨path ++ [key], false, some span, inner⟩⟩

/-- Opens one more table of a list of tables by its header in double brackets. -/
def openElement (builder : Builder) (path : List Key) (key : Key) (span : Span) :
    Option Builder := do
  let root ← builder.close
  let makeRoom (entries : Entries) : Option Entries :=
    match entries.find? key.text with
    | none => some (entries ++ [(key, .tables [] none)])
    | some (.tables _ _) => some entries
    | some _ => none
  let (root, _) ←
    Entries.alter false false (fun _ entries => (makeRoom entries).map (·, ())) path .written root
  some ⟨root, ⟨path ++ [key], true, some span, []⟩⟩

def readHeader (builder : Builder) (cursor : Cursor) : Option (Builder × Cursor) :=
  match cursor.rest with
  | '[' :: '[' :: _ => do
      let ((path, key), next) ← readKey (cursor.eatMany 2)
      let next ← next.expect [']', ']']
      let builder ← builder.openElement path key (cursor.spanTo next)
      some (builder, ← readLineRest next)
  | _ => do
      let ((path, key), next) ← readKey cursor.eat
      let next ← next.expect [']']
      let builder ← builder.openTable path key (cursor.spanTo next)
      some (builder, ← readLineRest next)

def readEntry (builder : Builder) (cursor : Cursor) : Option (Builder × Cursor) := do
  let ((path, key), cursor) ← readKey cursor
  let (node, cursor) ← readValue (depthLimit - 1) (skipSpaces (← cursor.expect ['=']))
  let current ← builder.current.add? path key node
  some ({ builder with current }, ← readLineRest cursor)

/-- Reads the lines of a document, at most `bound` of them. -/
def readLines : Nat → Builder → Cursor → Option Builder
  | 0, _, _ => none
  | bound + 1, builder, cursor => do
      let cursor := skipSpaces cursor
      match cursor.rest with
      | [] => some builder
      | '#' :: _ => readLines bound builder (← readLineEnd (skipComment cursor))
      | '[' :: _ =>
          let (builder, cursor) ← builder.readHeader cursor
          readLines bound builder cursor
      | '\n' :: _ | '\r' :: _ => readLines bound builder (← readNewline cursor)
      | _ =>
          let (builder, cursor) ← builder.readEntry cursor
          readLines bound builder cursor

end Builder

def skipMark (cursor : Cursor) : Cursor := (cursor.expect ['\ufeff']).getD cursor

def readDocument (text : String) : Option Entries := do
  let start := skipMark ⟨text.toList, 0⟩
  let builder ← Builder.start.readLines (start.rest.length + 1) start
  builder.close

end AutomataRequest.Toml
