import Wiring.Lifetime
import Wiring.Member

/-!
Services as they are asked for and as they are registered. A registration constructs its resolved
type: the implementation where it has one, its own type otherwise.
-/

namespace Wiring

/-- Registrations are numbered in the order in which they are added. -/
abbrev RegistrationId := Nat

namespace RegistrationId

def label (id : RegistrationId) : String := "#" ++ Nat.repr id

end RegistrationId

structure Service where
  type : TypeExpr
  lifetime : Lifetime
  implementation : Option TypeExpr := none
  member : Option Member := none
  key : Option String := none
  /-- The elements, where the service is a collection of registrations. -/
  collected : Option (List RegistrationId) := none
  deriving DecidableEq

structure Registration extends Service where
  id : RegistrationId
  /-- How many closed registrations of the type there were before. -/
  indexForType : Nat
  disposable : Bool
  asyncDisposable : Bool
  deriving DecidableEq

def Service.resolvedType (service : Service) : TypeExpr := service.implementation.getD service.type

/-- Its resolved type has no type parameters. -/
def Service.isClosed (service : Service) : Bool := service.resolvedType.isClosed

namespace Registration

def isEmptyCollection (registration : Registration) : Bool := registration.collected == some []

/-- Adds an element to what the registration collects, unless it is there. -/
def collect (registration : Registration) (element : RegistrationId) : Registration :=
  let ids := registration.collected.getD []
  { registration with
    collected := some (if ids.contains element then ids else ids ++ [element]) }

end Registration

end Wiring
