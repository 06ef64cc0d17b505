import AutomataRequest.Options

/-!
Automata operations. Each operation reads options of one kind or no options at all.
-/

namespace AutomataRequest

inductive Operation where
  | load
  | witness
  | complement
  | union
  | intersection
  | simulation
  | reduction
  | equivalence
  | inclusion
  deriving DecidableEq, Repr

namespace Operation

def all : List Operation :=
  [.load, .witness, .complement, .union, .intersection, .simulation, .reduction, .equivalence,
    .inclusion]

def name : Operation → String
  | .load => "load"
  | .witness => "witness"
  | .complement => "complement"
  | .union => "union"
  | .intersection => "intersection"
  | .simulation => "simulation"
  | .reduction => "reduction"
  | .equivalence => "equivalence"
  | .inclusion => "inclusion"

def token : Operation → String
  | .load => "LOAD"
  | .witness => "WITNESS"
  | .complement => "CMPL"
  | .union => "UNION"
  | .intersection => "ISECT"
  | .simulation => "SIM"
  | .reduction => "RED"
  | .equivalence => "EQUIV"
  | .inclusion => "INCL"

def label : Operation → String
  | .load => "Load"
  | .witness => "Witness"
  | .complement => "Complement"
  | .union => "Union"
  | .intersection => "Intersection"
  | .simulation => "Simulation"
  | .reduction => "Reduction"
  | .equivalence => "Equivalence"
  | .inclusion => "Inclusion"

def optionsKind? : Operation → Option OptionsKind
  | .load | .witness | .complement | .union | .intersection => none
  | .simulation | .reduction => some .direction
  | .equivalence | .inclusion => some .order

def takesOptions (operation : Operation) : Bool := operation.optionsKind?.isSome

theorem mem_all (operation : Operation) : operation ∈ all := by
  cases operation <;> decide

end Operation

end AutomataRequest
