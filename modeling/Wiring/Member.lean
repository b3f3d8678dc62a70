import Wiring.TypeExpr.Basic

/-!
Members that construct or hand out a service, and their parameters.
-/

namespace Wiring

inductive Attribute where
  /-- The parameter takes the service registered under this key. -/
  | keyed (key : String)
  /-- The parameter refuses an empty collection. -/
  | nonEmpty
  | other (name : String)
  deriving DecidableEq, Repr

structure Parameter where
  name : String
  type : TypeExpr
  attributes : List Attribute
  default? : Option String
  deriving DecidableEq

namespace Parameter

def keyOf : Attribute → Option String
  | .keyed key => some key
  | .nonEmpty | .other _ => none

/-- The key of the first attribute that names one. -/
def key (parameter : Parameter) : Option String := parameter.attributes.findSome? keyOf

def requiresNonEmpty (parameter : Parameter) : Bool := parameter.attributes.contains .nonEmpty

def substitute (bindings : Bindings) (parameter : Parameter) : Parameter :=
  { parameter with type := parameter.type.substitute bindings }

end Parameter

inductive Access where
  | publicAccess
  | internalAccess
  | protectedAccess
  | privateAccess
  deriving DecidableEq, Repr

/-- A constructor or a method; `returns` is none for a method without a result. -/
structure Method where
  name : String
  access : Access
  /-- Supplied because the type declares no constructor. -/
  implicit : Bool
  parameters : List Parameter
  returns : Option TypeExpr
  deriving DecidableEq

namespace Method

def constructorName : String := ".ctor"

def implicitConstructor : Method := ⟨constructorName, .publicAccess, true, [], none⟩

def isPublic (method : Method) : Bool := method.access == .publicAccess

def substitute (bindings : Bindings) (method : Method) : Method :=
  { method with
    parameters := method.parameters.map (·.substitute bindings)
    returns := method.returns.map (·.substitute bindings) }

end Method

inductive Member where
  | method (method : Method)
  | property (name : String) (type : TypeExpr)
  | field (name : String) (type : TypeExpr)
  deriving DecidableEq

namespace Member

def name : Member → String
  | method m => m.name
  | property name _ | field name _ => name

/-- The type that a use of the member yields. -/
def produces : Member → Option TypeExpr
  | method m => m.returns
  | property _ type | field _ type => some type

def parameters : Member → List Parameter
  | method m => m.parameters
  | property .. | field .. => []

def substitute (bindings : Bindings) : Member → Member
  | method m => method (m.substitute bindings)
  | property name type => property name (type.substitute bindings)
  | field name type => field name (type.substitute bindings)

end Member
end Wiring
