import Wiring.Container.Check
import Wiring.Graph.Cycle
import Wiring.Provider.Basic

/-!
A whole run for one provider: the services it declares are registered, every registration of a
closed type is checked, and the dependency graph is searched for cycles. The first failure ends the
run.
-/

namespace Wiring

/-- The container as the run left it, the warnings in the order in which they arose, and whether the
run failed. -/
structure Assembly where
  container : Container
  warnings : List Warning
  result : Except Fault Unit

namespace Container

/-- Checks those of the registrations that construct closed types. -/
def checkEach (ctx : Context) : Container → List RegistrationId → Step Unit
  | c, [] => (c, .ok ())
  | c, id :: rest =>
    if c.isClosed id then
      match c.check ctx id with
      | (c, .error fault) => (c, .error fault)
      | (c, .ok ()) => checkEach ctx c rest
    else checkEach ctx c rest

def checkAll (c : Container) (ctx : Context) : Step Unit := checkEach ctx c (List.range c.size)

end Container

/-- Wires the services of a provider. -/
def assemble (ctx : Context) (provider : TypeExpr) : Assembly :=
  match ctx.program.declaredServices provider with
  | .error fault => ⟨.empty, [], .error fault⟩
  | .ok services =>
    match (Container.empty.addAll ctx services).checkAll ctx with
    | (c, .error fault) => ⟨c, c.warnings, .error fault⟩
    | (c, .ok ()) => ⟨c, c.warnings ++ c.lifetimeWarnings, c.validate⟩

end Wiring
