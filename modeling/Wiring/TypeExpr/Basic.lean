/-!
Types as services name them: a kind, a name, arguments and a nullable annotation. Two types are
the same when they differ in annotations only, at whatever level; every index of a container
compares types that way.
-/

namespace Wiring

inductive TypeKind where
  | classType
  | interfaceType
  | structType
  | array
  | parameter
  | unresolved
  deriving DecidableEq, Repr

/-- The name of an array is empty; its element is the first argument. -/
structure TypeExpr where
  kind : TypeKind
  name : String
  args : List TypeExpr
  nullable : Bool

/-- What each type parameter, by name, stands for. The first entry of a name counts. -/
abbrev Bindings := List (String × TypeExpr)

namespace TypeExpr

/-- Induction with a hypothesis for each argument. -/
@[elab_as_elim, induction_eliminator]
theorem induct {motive : TypeExpr → Prop}
    (mk : ∀ kind name args nullable,
      (∀ arg ∈ args, motive arg) → motive ⟨kind, name, args, nullable⟩)
    (type : TypeExpr) : motive type :=
  match type with
  | ⟨kind, name, args, nullable⟩ => mk kind name args nullable fun arg _h => induct mk arg
termination_by sizeOf type
decreasing_by
  have := List.sizeOf_lt_of_mem _h
  simp only [TypeExpr.mk.sizeOf_spec]
  omega

mutual
def decEq : (a b : TypeExpr) → Decidable (a = b)
  | ⟨k, n, as, q⟩, ⟨k', n', bs, q'⟩ =>
    if hk : k = k' then
      if hn : n = n' then
        if hq : q = q' then
          match decEqAll as bs with
          | .isTrue h => .isTrue (by rw [hk, hn, hq, h])
          | .isFalse h => .isFalse fun e => h (congrArg TypeExpr.args e)
        else .isFalse fun e => hq (congrArg TypeExpr.nullable e)
      else .isFalse fun e => hn (congrArg TypeExpr.name e)
    else .isFalse fun e => hk (congrArg TypeExpr.kind e)

def decEqAll : (as bs : List TypeExpr) → Decidable (as = bs)
  | [], [] => .isTrue rfl
  | [], _ :: _ => .isFalse (List.cons_ne_nil _ _).symm
  | _ :: _, [] => .isFalse (List.cons_ne_nil _ _)
  | a :: as, b :: bs =>
    match decEq a b with
    | .isTrue h =>
      match decEqAll as bs with
      | .isTrue hs => .isTrue (by rw [h, hs])
      | .isFalse hs => .isFalse fun e => hs (List.cons.inj e).2
    | .isFalse h => .isFalse fun e => h (List.cons.inj e).1
end

instance : DecidableEq TypeExpr := decEq

/-- An interface without arguments. -/
def interface (name : String) : TypeExpr := ⟨.interfaceType, name, [], false⟩

def arrayOf (element : TypeExpr) : TypeExpr := ⟨.array, "", [element], false⟩

/-- The type without its own annotation; those of its arguments stay. -/
def bare (type : TypeExpr) : TypeExpr := { type with nullable := false }

/-- Classes, interfaces and structs. -/
def isNamed (type : TypeExpr) : Bool :=
  match type.kind with
  | .classType | .interfaceType | .structType => true
  | .array | .parameter | .unresolved => false

def isArray (type : TypeExpr) : Bool := type.kind == .array

def isGeneric (type : TypeExpr) : Bool := type.isNamed && !type.args.isEmpty

def element? (type : TypeExpr) : Option TypeExpr := if type.isArray then type.args.head? else none

/-- The same generic type over other arguments, without an annotation. -/
def construct (type : TypeExpr) (args : List TypeExpr) : TypeExpr :=
  ⟨type.kind, type.name, args, false⟩

mutual
/-- A type parameter occurs in the type. -/
def isOpen : TypeExpr → Bool
  | ⟨kind, _, args, _⟩ => kind == .parameter || anyOpen args

def anyOpen : List TypeExpr → Bool
  | [] => false
  | type :: types => type.isOpen || anyOpen types
end

def isClosed (type : TypeExpr) : Bool := !type.isOpen

mutual
/-- Replaces the bound type parameters. An annotated parameter annotates what it stands for. -/
def substitute (bindings : Bindings) : TypeExpr → TypeExpr
  | ⟨.parameter, name, args, nullable⟩ =>
    match bindings.lookup name with
    | some bound => { bound with nullable := bound.nullable || nullable }
    | none => ⟨.parameter, name, args, nullable⟩
  | ⟨kind, name, args, nullable⟩ => ⟨kind, name, substituteAll bindings args, nullable⟩

def substituteAll (bindings : Bindings) : List TypeExpr → List TypeExpr
  | [] => []
  | type :: types => type.substitute bindings :: substituteAll bindings types
end

/-- Binds the parameters among the arguments of `pattern` to the arguments of `type` in their
places. -/
def bindings (pattern type : TypeExpr) : Bindings :=
  (pattern.args.zip type.args).filterMap fun (parameter, arg) =>
    if parameter.kind = .parameter then some (parameter.name, arg) else none

theorem anyOpen_eq_any (types : List TypeExpr) : anyOpen types = types.any isOpen := by
  induction types with
  | nil => rfl
  | cons type types ih => simp [anyOpen, ih]

theorem substituteAll_eq_map (σ : Bindings) (types : List TypeExpr) :
    substituteAll σ types = types.map (substitute σ) := by
  induction types with
  | nil => rfl
  | cons type types ih => simp [substituteAll, ih]

end TypeExpr
end Wiring
