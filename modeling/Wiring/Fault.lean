import Wiring.Text.Chain
import Wiring.Text.Quoted
import Wiring.TypeExpr.Text

/-!
Why a step of the engine fails, and how the failure reads.
-/

namespace Wiring

/-- A registration that a request could mean. -/
structure Candidate where
  implementation : String
  key : Option String
  deriving DecidableEq, Repr

inductive UnresolvedCause where
  | notDeclared (suggestions : List String)
  | severalDeclared (candidates : List Candidate)
  deriving DecidableEq, Repr

structure UnresolvedParameter where
  name : String
  requested : String
  key : Option String
  cause : UnresolvedCause
  deriving DecidableEq, Repr

inductive Fault where
  | notNamedType (type : TypeExpr)
  | ambiguousConstructor (type : TypeExpr) (count : Nat)
  | invalidFactory (type : TypeExpr) (member : String)
  | specializationDepthExceeded (type : TypeExpr) (limit : Nat)
  | memberNotFound (owner : TypeExpr) (member : String)
  | ambiguousMember (owner : TypeExpr) (member : String) (count : Nat)
  | invalidImport (type : TypeExpr)
  | unresolvedDependencies (service : String) (parameters : List UnresolvedParameter)
  | circularDependency (chain : List String)
  | lazyTransientCycle (links : List ChainLink)
  | invalidSettings
  /-- No registration has this number. -/
  | unissuedId (id : Nat)
  deriving DecidableEq

namespace UnresolvedCause

def lines : UnresolvedCause → String
  | notDeclared [] => ": no registration found"
  | notDeclared suggestions =>
    ": no registration found (did you mean " ++ ", ".intercalate suggestions ++ "?)"
  | severalDeclared candidates =>
    ": multiple registrations found: " ++ Nat.repr candidates.length ++
      String.join (candidates.map fun candidate =>
        "\n      " ++ candidate.implementation ++ Text.keyClause candidate.key)

end UnresolvedCause

def UnresolvedParameter.line (parameter : UnresolvedParameter) : String :=
  "parameter `" ++ parameter.name ++ "` requires " ++ parameter.requested ++
    Text.keyClause parameter.key ++ parameter.cause.lines

namespace Fault

/-- The names along a cycle of links. -/
def linkNames (links : List ChainLink) : List String := links.map (·.name)

def message : Fault → String
  | notNamedType type =>
    type.text ++ " is not a named type; only classes, interfaces and structs can be constructed"
  | ambiguousConstructor type count =>
    type.text ++ " has " ++ Nat.repr count ++
      " public constructors; declare exactly one or register a factory"
  | invalidFactory type member =>
    "Member `" ++ member ++ "` cannot construct " ++ type.text ++ ": it must return a named type"
  | specializationDepthExceeded type limit =>
    "Specializing " ++ type.text ++ " exceeded the maximum nesting depth of " ++ Nat.repr limit
  | memberNotFound owner member => owner.text ++ " has no member named `" ++ member ++ "`"
  | ambiguousMember owner member count =>
    owner.text ++ " has " ++ Nat.repr count ++ " members named `" ++ member ++
      "`; factory members must be unique"
  | invalidImport type => type.text ++ " cannot be imported: it is not marked as a module"
  | unresolvedDependencies service parameters =>
    "Unable to resolve dependencies of " ++ service ++ ":" ++
      String.join (parameters.map fun parameter => "\n  - " ++ parameter.line)
  | circularDependency chain =>
    "Circular dependency detected:\n  " ++ Text.chain chain ++
      "\n  Hint: take one of these dependencies as a deferred reference (Lazy<T>) " ++
      "from a Singleton or Scoped service"
  | lazyTransientCycle links =>
    "Deferred dependency cycle between transient services:\n  " ++ Text.chain (linkNames links) ++
      "\n" ++ Text.verticalChain links ++
      "  Hint: a transient deferred factory builds a new instance each time and re-enters its " ++
      "own construction; make one side Singleton or Scoped"
  | invalidSettings => "Invalid settings"
  | unissuedId id => "No registration has the number " ++ Nat.repr id

end Fault
end Wiring
