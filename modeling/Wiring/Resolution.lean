import Wiring.Registration

/-!
How a type is constructed, and where each parameter of its construction comes from. A parameter has
exactly one outcome: a registration, none declared, several, or one that the running program
supplies.
-/

namespace Wiring

inductive Outcome where
  | selected (id : RegistrationId)
  | undeclared
  | ambiguous (ids : List RegistrationId)
  | fallback
  deriving DecidableEq, Repr

namespace Outcome

def selected? : Outcome → Option RegistrationId
  | selected id => some id
  | undeclared | ambiguous _ | fallback => none

def candidates : Outcome → List RegistrationId
  | ambiguous ids => ids
  | selected _ | undeclared | fallback => []

def isAmbiguous : Outcome → Bool
  | ambiguous _ => true
  | selected _ | undeclared | fallback => false

theorem selected?_eq_some_iff {outcome : Outcome} {id : RegistrationId} :
    outcome.selected? = some id ↔ outcome = .selected id := by
  cases outcome <;> simp [selected?]

end Outcome

structure ParameterResolution where
  parameter : Parameter
  /-- The parameter's type without its nullable wrapper or annotation. -/
  type : TypeExpr
  nullable : Bool
  deferred : Bool
  outcome : Outcome
  deriving DecidableEq

namespace ParameterResolution

def key (resolution : ParameterResolution) : Option String := resolution.parameter.key

/-- Construction can go on without a registered service. -/
def isOptional (resolution : ParameterResolution) : Bool :=
  resolution.nullable || resolution.parameter.default?.isSome

def isSatisfied (resolution : ParameterResolution) : Bool :=
  resolution.outcome.selected?.isSome || resolution.outcome == .fallback || resolution.isOptional

/-- Construction cannot go on before the selected service is there. -/
def isHard (resolution : ParameterResolution) : Bool :=
  resolution.outcome.selected?.isSome && !resolution.isOptional

end ParameterResolution

inductive Construction where
  | constructor (method : Method)
  | member (member : Member)
  deriving DecidableEq

def Construction.parameters : Construction → List Parameter
  | constructor method => method.parameters
  | member m => m.parameters

structure Resolution where
  type : TypeExpr
  lifetime : Lifetime
  construction : Construction
  parameters : List ParameterResolution
  deriving DecidableEq

end Wiring
