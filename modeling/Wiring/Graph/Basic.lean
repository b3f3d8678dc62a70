import Wiring.Container.Basic

/-!
The dependency graph of a container. Each resolved closed type is a node; an edge leads to every
type that has to be there before it can be constructed. A deferred reference waits for nothing
unless both ends are transient, for then each use constructs anew.
-/

namespace Wiring

structure Edge where
  target : TypeExpr
  deferred : Bool
  deriving DecidableEq

structure Node where
  type : TypeExpr
  lifetime : Lifetime
  edges : List Edge
  deriving DecidableEq

abbrev Graph := List Node

namespace Graph

def node? (graph : Graph) (type : TypeExpr) : Option Node := graph.find? (·.type.same type)

end Graph

namespace Container

/-- The registrations a hard parameter waits for: the selected one, or all that it collects. -/
def targets (c : Container) (p : ParameterResolution) : List RegistrationId :=
  match p.outcome.selected? with
  | none => []
  | some id =>
    match c.registration? id with
    | none => [id]
    | some r => r.collected.getD [id]

def closedResolutions (c : Container) : List Resolution := c.resolutions.filter (·.type.isClosed)

def edge? (consumer : Resolution) (p : ParameterResolution) (target : Registration) : Option Edge :=
  if p.deferred && !(consumer.lifetime.isTransient && target.lifetime.isTransient) then none
  else some ⟨target.resolvedType, p.deferred⟩

/-- What a resolution waits for, parameter by parameter. -/
def hardTargets (c : Container) (resolution : Resolution) :
    List (ParameterResolution × Registration) :=
  (resolution.parameters.filter (·.isHard)).flatMap fun p =>
    ((c.targets p).filterMap c.registration?).map (p, ·)

def nodeOf (c : Container) (resolution : Resolution) : Node where
  type := resolution.type
  lifetime := resolution.lifetime
  edges := (c.hardTargets resolution).filterMap fun (p, target) => edge? resolution p target

def graph (c : Container) : Graph := c.closedResolutions.map c.nodeOf

/-- A warning for each target that does not live as long as its consumer, deferred or not. -/
def lifetimeWarnings (c : Container) : List Warning :=
  c.closedResolutions.flatMap fun resolution =>
    (c.hardTargets resolution).filterMap fun (_, target) =>
      if target.lifetime.shorterThan resolution.lifetime then
        some (.shorterLifetime resolution.type resolution.lifetime target.resolvedType
          target.lifetime)
      else none

/-- A number that the graph would need and that no registration has. -/
def danglingTarget? (c : Container) : Option RegistrationId :=
  let needed := c.closedResolutions.flatMap fun resolution =>
    (resolution.parameters.filter (·.isHard)).flatMap c.targets
  needed.find? fun id => (c.registration? id).isNone

end Container
end Wiring
