import Wiring.Fault
import Wiring.Program
import Wiring.Registration

/-!
The services that a provider declares, in the order of the declarations. An imported module is
expanded where it is imported, and only the first time; the provider itself counts as imported.
-/

namespace Wiring

structure Gathering where
  imported : List TypeExpr
  services : List Service
  deriving DecidableEq

namespace Gathering

def push (gathering : Gathering) (service : Service) : Gathering :=
  { gathering with services := gathering.services ++ [service] }

/-- The one member of the owner with this name. -/
def uniqueMember (program : Program) (owner : TypeExpr) (name : String) : Except Fault Member :=
  match program.members owner name with
  | [] => .error (.memberNotFound owner name)
  | [member] => .ok member
  | several => .error (.ambiguousMember owner name several.length)

/-- Takes over one declaration of `owner`; `enter` expands a module that is new. -/
def declare (program : Program) (enter : Gathering → TypeExpr → Except Fault Gathering)
    (owner : TypeExpr) (gathering : Gathering) : Declaration → Except Fault Gathering
  | .dependency lifetime service implementation key =>
    .ok (gathering.push { type := service, lifetime, implementation, key })
  | .factory lifetime service key name => do
    let member ← uniqueMember program owner name
    return gathering.push { type := service, lifetime, member := some member, key }
  | .sharedInstance service key name => do
    let member ← uniqueMember program owner name
    return gathering.push { type := service, lifetime := .singleton, member := some member, key }
  | .moduleImport module =>
    if !program.isModule module then .error (.invalidImport module)
    else if TypeExpr.isNew gathering.imported module then
      enter { gathering with imported := module :: gathering.imported } module
    else .ok gathering

/-- Takes over all declarations of `owner`, expanding at most `budget` modules inside one another.
As each module is expanded once, the number of those that are imported anywhere is enough. -/
def expand (program : Program) : Nat → Gathering → TypeExpr → Except Fault Gathering
  | 0, gathering, owner =>
    (program.declarations owner).foldlM
      (declare program (fun _ module => .error (.invalidImport module)) owner) gathering
  | budget + 1, gathering, owner =>
    (program.declarations owner).foldlM (declare program (expand program budget) owner) gathering

end Gathering

/-- The services of a provider. -/
def Program.declaredServices (program : Program) (provider : TypeExpr) :
    Except Fault (List Service) :=
  (Gathering.expand program program.importDepth ⟨[provider], []⟩ provider).map (·.services)

end Wiring
