import Wiring.Container.Diagnosis
import Wiring.Container.Specialization

/-!
The check of a registration: the constructor or member it is built by, then a source for each of the
parameters in turn. Resolving a parameter may specialize an open registration, and checking that one
is a check again, so the check is written over the check to use one level further down; the depth
allowed by the settings bounds the levels.
-/

namespace Wiring.Container

/-- Where a request for `target` under `key` is served from. -/
def resolveTarget (ctx : Context) (check : Option Check) (c : Container) (key : Option String)
    (target : TypeExpr) (requireNonEmpty : Bool) : Step Outcome :=
  match c.servicesFor target with
  | [] =>
    if key.isSome then (c, .ok .undeclared)
    else
      match ctx.settings.collectionElement? target with
      | some element =>
        let (c, outcome) := c.selectCollection ctx element requireNonEmpty
        (c, .ok outcome)
      | none => if target.isGeneric then specialize ctx check c target else (c, .ok .undeclared)
  | ids => (c, .ok (c.selectAmong ctx key requireNonEmpty ids))

/-- The fallback is asked only where no registration is declared. -/
def askFallback (ctx : Context) (c : Container) (key : Option String) (target : TypeExpr) :
    Outcome → Container × Outcome
  | .undeclared =>
    match ctx.fallback with
    | none => (c, .undeclared)
    | some canProvide =>
      let answer := canProvide key target
      (c.note (.fallbackAsked key target answer), if answer then .fallback else .undeclared)
  | outcome => (c, outcome)

/-- The type a parameter of this type has to be served with: what a deferred reference refers to. -/
def targetOf (ctx : Context) (unwrapped : TypeExpr) : TypeExpr :=
  (ctx.settings.deferredInner? unwrapped).getD unwrapped

def resolveParameter (ctx : Context) (check : Option Check) (c : Container)
    (parameter : Parameter) : Step ParameterResolution :=
  let (type, nullable) := ctx.settings.unwrapNullable parameter.type
  let target := targetOf ctx type
  match resolveTarget ctx check c parameter.key target parameter.requiresNonEmpty with
  | (c, .error fault) => (c, .error fault)
  | (c, .ok outcome) =>
    let (c, outcome) := askFallback ctx c parameter.key target outcome
    (c, .ok ⟨parameter, type, nullable, (ctx.settings.deferredInner? type).isSome, outcome⟩)

/-- Resolves parameters from left to right, up to the first failure. -/
def resolveParameters (ctx : Context) (check : Option Check) :
    Container → List Parameter → Step (List ParameterResolution)
  | c, [] => (c, .ok [])
  | c, parameter :: rest =>
    match resolveParameter ctx check c parameter with
    | (c, .error fault) => (c, .error fault)
    | (c, .ok first) =>
      match resolveParameters ctx check c rest with
      | (c, .error fault) => (c, .error fault)
      | (c, .ok others) => (c, .ok (first :: others))

/-- The one explicit public constructor, else the implicit one, else none. -/
def usableConstructor (ctx : Context) (type : TypeExpr) : Except Fault (Option Method) :=
  let usable := (ctx.program.constructors type).filter (·.isPublic)
  match usable.filter (!·.implicit) with
  | [] => .ok (usable.find? (·.implicit))
  | [only] => .ok (some only)
  | several => .error (.ambiguousConstructor type several.length)

/-- A registration with a member is built by it, and the member has to yield a named type. -/
def selectConstruction (ctx : Context) (type : TypeExpr) :
    Option Member → Except Fault (Option Construction)
  | some member =>
    if member.produces.any (·.isNamed) then .ok (some (.member member))
    else .error (.invalidFactory type member.name)
  | none => (usableConstructor ctx type).map (·.map .constructor)

/-- Stores what was worked out for the registration `id`, then reports the parameters that nothing
satisfies. -/
def conclude (ctx : Context) (c : Container) (id : RegistrationId) (resolution : Resolution) :
    Step Unit :=
  let unresolved := (resolution.parameters.filter (!·.isSatisfied)).map (c.describe ctx)
  let c := (c.store resolution).note (.resolved id resolution.parameters)
  if unresolved.isEmpty then (c, .ok ())
  else (c, .error (.unresolvedDependencies resolution.type.displayName unresolved))

def checkWith (ctx : Context) (check : Option Check) : Check := fun c id =>
  match c.registration? id with
  | none => (c, .error (.unissuedId id))
  | some r =>
    let type := r.resolvedType
    if !type.isNamed then (c, .error (.notNamedType type))
    else
      match selectConstruction ctx type r.member with
      | .error fault => (c, .error fault)
      | .ok none => (c, .ok ())
      | .ok (some construction) =>
        match resolveParameters ctx check c construction.parameters with
        | (c, .error fault) => (c, .error fault)
        | (c, .ok parameters) => conclude ctx c id ⟨type, r.lifetime, construction, parameters⟩

/-- A check that may nest `levels` specializations. -/
def checkWithin (ctx : Context) : Nat → Check
  | 0 => checkWith ctx none
  | levels + 1 => checkWith ctx (some (checkWithin ctx levels))

/-- Works out how the registration is constructed. -/
def check (c : Container) (ctx : Context) (id : RegistrationId) : Step Unit :=
  checkWithin ctx (ctx.settings.maxSpecializationDepth - c.specializationDepth) c id

end Wiring.Container
