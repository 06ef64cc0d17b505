/-!
Options of a request: the direction of a traversal or the order of an exploration. Direction
tokens come in two tables, one for explicit finite automata and one for everything else.
-/

namespace AutomataRequest

inductive Direction where
  | forward
  | backward
  deriving DecidableEq, Repr

namespace Direction

def all : List Direction := [.forward, .backward]

def name : Direction → String
  | .forward => "forward"
  | .backward => "backward"

def automatonToken : Direction → String
  | .forward => "FWD"
  | .backward => "BWD"

def treeToken : Direction → String
  | .forward => "UP"
  | .backward => "DOWN"

def label : Direction → String
  | .forward => "Forward"
  | .backward => "Backward"

theorem mem_all (direction : Direction) : direction ∈ all := by
  cases direction <;> decide

end Direction

inductive Order where
  | lexicographic
  | depthFirst
  | breadthFirst
  deriving DecidableEq, Repr

namespace Order

def all : List Order := [.lexicographic, .depthFirst, .breadthFirst]

def name : Order → String
  | .lexicographic => "lexicographic"
  | .depthFirst => "depth_first"
  | .breadthFirst => "breadth_first"

def token : Order → String
  | .lexicographic => "LEX"
  | .depthFirst => "DEPTH"
  | .breadthFirst => "BREADTH"

def label : Order → String
  | .lexicographic => "Lexicographic"
  | .depthFirst => "DepthFirst"
  | .breadthFirst => "BreadthFirst"

theorem mem_all (order : Order) : order ∈ all := by
  cases order <;> decide

end Order

/-- What an option value is: a direction or an order. -/
inductive OptionsKind where
  | direction
  | order
  deriving DecidableEq, Repr

namespace OptionsKind

def all : List OptionsKind := [.direction, .order]

def name : OptionsKind → String
  | .direction => "direction"
  | .order => "order"

end OptionsKind

inductive Options where
  | direction (value : Direction)
  | order (value : Order)
  deriving DecidableEq, Repr

namespace Options

def kind : Options → OptionsKind
  | .direction _ => .direction
  | .order _ => .order

def direction? : Options → Option Direction
  | .direction value => some value
  | .order _ => none

def order? : Options → Option Order
  | .direction _ => none
  | .order value => some value

/-- The name of the direction or of the order. -/
def valueName : Options → String
  | .direction value => value.name
  | .order value => value.name

def label : Options → String
  | .direction value => "Direction(" ++ value.label ++ ")"
  | .order value => "Order(" ++ value.label ++ ")"

end Options

end AutomataRequest
