import AutomataRequest.Toml.Misfit

/-!
Fitting TOML values to expected types: texts, choices and structures with known fields. A
structure may be a table, or a list that holds the fields in order; fields may be missing.
-/

namespace AutomataRequest.Toml

abbrev Fit (Value : Type) := Except Misfit Value

namespace Node

/-- What a value is when another type was expected. -/
def found : Node → Found
  | .scalar (.string value) _ => .string value
  | .scalar (.integer value) _ => .integer value
  | .scalar (.floating value) _ => .floating value
  | .scalar (.boolean value) _ => .boolean value
  | .scalar .datetime _ => .map
  | .array _ _ => .sequence
  | .table _ _ _ _ => .map
  | .tables _ _ => .sequence

def typeName : Node → String
  | .scalar (.string _) _ => "string"
  | .scalar (.integer _) _ => "integer"
  | .scalar (.floating _) _ => "float"
  | .scalar (.boolean _) _ => "boolean"
  | .scalar .datetime _ => "datetime"
  | .array _ _ => "array"
  | .table inlined _ _ _ => if inlined then "inline table" else "table"
  | .tables _ _ => "array of tables"

def wrongType (node : Node) (expected : String) : Misfit :=
  ⟨.mismatch (.wrongType node.found expected), node.span?⟩

def fitText : Node → Fit String
  | .scalar (.string value) _ => .ok value
  | node => .error (node.wrongType "a string")

end Node

def choose {Variant : Type} (variants : List Variant) (name : Variant → String)
    (text : String) (span : Option Span) : Fit Variant :=
  match variants.find? fun variant => name variant == text with
  | some variant => .ok variant
  | none => .error ⟨.mismatch (.unknownVariant text (variants.map name)), span⟩

namespace Node

/-- What may stand under the name of a choice: something empty. -/
def fitNothing : Node → Fit Unit
  | .array [] _ => .ok ()
  | .array _ span => .error ⟨.choiceTableNotEmpty, some span⟩
  | .table _ _ _ [] => .ok ()
  | .table _ _ span _ => .error ⟨.choiceTableNotEmpty, span⟩
  | .tables [] _ => .ok ()
  | .tables _ span => .error ⟨.choiceListNotEmpty, span⟩
  | node => .error ⟨.choiceNotTable node.typeName, node.span?⟩

/-- A choice is a name, or a table whose only key is the name. -/
def fitChoice {Variant : Type} (variants : List Variant) (name : Variant → String) :
    Node → Fit Variant
  | .scalar (.string text) span => choose variants name text (some span)
  | .table _ _ span entries =>
      match entries with
      | [] => .error ⟨.emptyChoice, span⟩
      | [(key, content)] => do
          let variant ← choose variants name key.text (some key.span)
          content.fitNothing
          return variant
      | _ => .error ⟨.manyChoices, span⟩
  | node => .error ⟨.notAChoice, node.span?⟩

end Node

/-- A field's name, and how its value changes the structure. -/
structure Field (Structure : Type) where
  name : String
  fit : Structure → Node → Fit Structure

/-- The key of the table that a date or time counts as. -/
def datetimeKey : String := "$__toml_private_datetime"

namespace Field

variable {Structure : Type}

def unknown (fields : List (Field Structure)) (name : String) (span : Option Span) : Misfit :=
  ⟨.mismatch (.unknownField name (fields.map (·.name))), span⟩

/-- Fits the entries of a table, in the order in which they were written. -/
def fitEntries (fields : List (Field Structure)) :
    Structure → List (Key × Node) → Fit Structure
  | value, [] => .ok value
  | value, (key, node) :: rest =>
      match fields.find? fun field => field.name == key.text with
      | none => .error (unknown fields key.text (some key.span))
      | some field =>
          match field.fit value node with
          | .ok value => fitEntries fields value rest
          | .error misfit =>
              .error ((misfit.placedAt node.span?).placedAt (some key.span))

/-- Fits the elements of a list; elements beyond the last field do not matter. -/
def fitElements : List (Field Structure) → Structure → List Node → Fit Structure
  | field :: fields, value, node :: nodes =>
      match field.fit value node with
      | .ok value => fitElements fields value nodes
      | .error misfit => .error (misfit.placedAt node.span?)
  | _, value, _ => .ok value

/-- Fits a structure, starting from its defaults. -/
def fitStructure (typeName : String) (fields : List (Field Structure)) (defaults : Structure) :
    Node → Fit Structure
  | .table _ _ _ entries => fitEntries fields defaults entries
  | .array items _ => fitElements fields defaults items
  | .tables items _ => fitElements fields defaults items
  | .scalar .datetime span => .error (unknown fields datetimeKey (some span))
  | node => .error (node.wrongType typeName)

end Field

end AutomataRequest.Toml
