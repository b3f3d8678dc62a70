/-!
How long an instance lives. Singletons outlive scoped services, which outlive transient ones.
-/

namespace Wiring

inductive Lifetime where
  | singleton
  | scoped
  | transient
  deriving DecidableEq, Repr

namespace Lifetime

def rank : Lifetime → Nat
  | .singleton => 2
  | .scoped => 1
  | .transient => 0

def order (a b : Lifetime) : Ordering := compare a.rank b.rank

def shorterThan (a b : Lifetime) : Bool := a.rank < b.rank

/-- One instance serves several requests, so it never enters its own construction again. -/
def isMemoized : Lifetime → Bool
  | .singleton | .scoped => true
  | .transient => false

def isTransient (lifetime : Lifetime) : Bool := lifetime == .transient

def text : Lifetime → String
  | .singleton => "Singleton"
  | .scoped => "Scoped"
  | .transient => "Transient"

end Lifetime
end Wiring
