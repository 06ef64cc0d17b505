/-!
Automaton encodings. An encoding has a name, used in request files, and a token, used on the
command line of the automata tool.
-/

namespace AutomataRequest

inductive Encoding where
  | explicit
  | explicitFa
  | bddTopDown
  | bddBottomUp
  deriving DecidableEq, Repr

namespace Encoding

def all : List Encoding := [.explicit, .explicitFa, .bddTopDown, .bddBottomUp]

def name : Encoding → String
  | .explicit => "explicit"
  | .explicitFa => "explicit_fa"
  | .bddTopDown => "bdd_top_down"
  | .bddBottomUp => "bdd_bottom_up"

def token : Encoding → String
  | .explicit => "EXPL"
  | .explicitFa => "EFA"
  | .bddTopDown => "BDD_TD"
  | .bddBottomUp => "BDD_BU"

/-- The label that log lines show. -/
def label : Encoding → String
  | .explicit => "Explicit"
  | .explicitFa => "ExplicitFa"
  | .bddTopDown => "BddTopDown"
  | .bddBottomUp => "BddBottomUp"

/-- Finite automata have direction tokens of their own. -/
def isExplicitFa (encoding : Encoding) : Bool := encoding == .explicitFa

theorem mem_all (encoding : Encoding) : encoding ∈ all := by
  cases encoding <;> decide

end Encoding

end AutomataRequest
