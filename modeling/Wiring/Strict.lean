import Wiring.Assembly

/-!
The engine, read strictly: a registration that is looked up by its number has to be there. A step
that looks up a number which no registration has comes to nothing, where the engine itself goes on
as if such a number were not among those it was given. What a step does is otherwise the same.
-/

namespace Wiring.Strict

/-- The result of a step that looks up these numbers. -/
def needing {α : Type} (c : Container) (ids : List RegistrationId) (result : α) : Option α :=
  if ∀ id ∈ ids, id < c.size then some result else none

/-- The registrations of a type. -/
def servicesFor (c : Container) (type : TypeExpr) : Option (List Registration) :=
  (c.servicesFor type).mapM c.registration?

/-- The closed registrations of the type are counted. -/
def add (c : Container) (ctx : Context) (service : Service) : Option Container :=
  needing c (c.servicesFor service.type) (c.add ctx service)

def addAll (c : Container) (ctx : Context) (services : List Service) : Option Container :=
  services.foldlM (fun c service => add c ctx service) c

def underKey (c : Container) (key : Option String) (ids : List RegistrationId) :
    Option (List RegistrationId) :=
  needing c ids (c.underKey key ids)

def familyOf? (c : Container) (ctx : Context) (id : RegistrationId) : Option (Option Family) :=
  needing c [id] (c.familyOf? ctx id)

def follow (c : Container) (ctx : Context) (id : RegistrationId) : Option RegistrationId := do
  match ← familyOf? c ctx id with
  | some family => return family.enumerable
  | none =>
    let r ← c.registration? id
    match r.implementation with
    | none => return id
    | some implementation =>
      if implementation.same r.type then return id
      else
        match ← underKey c r.key (c.servicesFor implementation) with
        | [concrete] => return concrete
        | _ => return id

def isEmptyCollection (c : Container) (id : RegistrationId) : Option Bool :=
  needing c [id] (c.isEmptyCollection id)

def selectAmong (c : Container) (ctx : Context) (key : Option String) (requireNonEmpty : Bool)
    (ids : List RegistrationId) : Option Outcome := do
  match ← underKey c key ids with
  | [] => return .undeclared
  | [id] =>
    let concrete ← follow c ctx id
    let empty ← isEmptyCollection c concrete
    return if requireNonEmpty && empty then .undeclared else .selected concrete
  | several => return .ambiguous several

def members (c : Container) (ctx : Context) (element : TypeExpr) :
    Option (List RegistrationId) := do
  let closed ← needing c (c.servicesFor element) ((c.servicesFor element).filter c.isClosed)
  closed.mapM (follow c ctx)

def addFamily (c : Container) (ctx : Context) (element : TypeExpr) (ids : List RegistrationId) :
    Option Container := do
  let array := TypeExpr.arrayOf element
  let added ← addAll c ctx [
    { type := array, lifetime := .transient },
    { type := ctx.settings.readOnlyListOf element, lifetime := .transient,
      implementation := some array },
    { type := ctx.settings.readOnlyCollectionOf element, lifetime := .transient,
      implementation := some array },
    { type := ctx.settings.enumerableOf element, lifetime := .transient,
      implementation := some array, collected := some ids }]
  return { added with
    families := added.families.insert element ⟨c.size, c.size + 1, c.size + 2, c.size + 3⟩ }

def selectCollection (c : Container) (ctx : Context) (element : TypeExpr) (requireNonEmpty : Bool) :
    Option (Container × Outcome) := do
  match c.families.get? element with
  | some family =>
    let empty ← isEmptyCollection c family.enumerable
    return if requireNonEmpty && empty then (c, .undeclared) else (c, .selected family.enumerable)
  | none =>
    let ids ← members c ctx element
    if requireNonEmpty && ids.isEmpty then return (c, .undeclared)
    else
      let added ← addFamily c ctx element ids
      return (added, .selected (c.size + 3))

def enlist (c : Container) (element : TypeExpr) (id : RegistrationId) : Option Container :=
  match c.families.get? element with
  | some family => needing c [family.enumerable] (c.enlist element id)
  | none => some c

def addBase (ctx : Context) (template : Service) (closed : TypeExpr) (id : RegistrationId)
    (c : Container) (base : TypeExpr) : Option Container := do
  let added ← add c ctx { template with type := base, implementation := some closed }
  enlist added base id

def addSpecialization (c : Container) (ctx : Context) (template : Service) :
    Option Container := do
  let id := c.size
  let closed := template.type
  let added ← add c ctx template
  let served ← (Container.servedBases ctx closed).foldlM (addBase ctx template closed id)
    (added.note (.specialized id))
  enlist served closed id

abbrev Check := Container → RegistrationId → Option (Step Unit)

def checkNested (check : Check) (c : Container) (id : RegistrationId) : Option (Step Unit) := do
  let (c, result) ← check { c with specializationDepth := c.specializationDepth + 1 } id
  return ({ c with specializationDepth := c.specializationDepth - 1 }, result)

def specializeFrom (ctx : Context) (check : Option Check) (c : Container) (target : TypeExpr)
    (source : Registration) : Option (Step Outcome) := do
  let implementation := source.resolvedType
  if implementation.args.length ≠ target.args.length then
    return (c.note (.warned (.arityMismatch target implementation)), .ok .undeclared)
  else
    let closed := implementation.construct target.args
    match ← underKey c source.key (c.servicesFor closed) with
    | existing :: _ =>
      if closed.same target then return (c, .ok (.selected existing))
      else
        let added ← add c ctx (Container.aliasOf target closed source)
        return (added, .ok (.selected existing))
    | [] =>
      let limit := ctx.settings.maxSpecializationDepth
      match if c.specializationDepth < limit then check else none with
      | none => return (c, .error (.specializationDepthExceeded closed limit))
      | some check =>
        let added ← addSpecialization c ctx (Container.closedOver target source)
        match ← checkNested check added c.size with
        | (after, .ok ()) => return (after, .ok (.selected c.size))
        | (after, .error fault) => return (after, .error fault)

def specialize (ctx : Context) (check : Option Check) (c : Container) (target : TypeExpr) :
    Option (Step Outcome) := do
  match ctx.program.genericDefinition target with
  | none => return (c, .ok .undeclared)
  | some definition =>
    match ← underKey c none (c.servicesFor definition) with
    | [] => return (c, .ok .undeclared)
    | [opened] =>
      let id ← follow c ctx opened
      let source ← c.registration? id
      specializeFrom ctx check c target source
    | several => return (c, .ok (.ambiguous several))

def resolveTarget (ctx : Context) (check : Option Check) (c : Container) (key : Option String)
    (target : TypeExpr) (requireNonEmpty : Bool) : Option (Step Outcome) := do
  match c.servicesFor target with
  | [] =>
    if key.isSome then return (c, .ok .undeclared)
    else
      match ctx.settings.collectionElement? target with
      | some element =>
        let (c, outcome) ← selectCollection c ctx element requireNonEmpty
        return (c, .ok outcome)
      | none =>
        if target.isGeneric then specialize ctx check c target else return (c, .ok .undeclared)
  | ids =>
    let outcome ← selectAmong c ctx key requireNonEmpty ids
    return (c, .ok outcome)

def resolveParameter (ctx : Context) (check : Option Check) (c : Container)
    (parameter : Parameter) : Option (Step ParameterResolution) := do
  let (type, nullable) := ctx.settings.unwrapNullable parameter.type
  let target := Container.targetOf ctx type
  match ← resolveTarget ctx check c parameter.key target parameter.requiresNonEmpty with
  | (c, .error fault) => return (c, .error fault)
  | (c, .ok outcome) =>
    let (c, outcome) := Container.askFallback ctx c parameter.key target outcome
    return (c, .ok ⟨parameter, type, nullable, (ctx.settings.deferredInner? type).isSome, outcome⟩)

def resolveParameters (ctx : Context) (check : Option Check) :
    Container → List Parameter → Option (Step (List ParameterResolution))
  | c, [] => some (c, .ok [])
  | c, parameter :: rest => do
    match ← resolveParameter ctx check c parameter with
    | (c, .error fault) => return (c, .error fault)
    | (c, .ok first) =>
      match ← resolveParameters ctx check c rest with
      | (c, .error fault) => return (c, .error fault)
      | (c, .ok others) => return (c, .ok (first :: others))

/-- What is ambiguous is described by its candidates. -/
def conclude (ctx : Context) (c : Container) (id : RegistrationId) (resolution : Resolution) :
    Option (Step Unit) :=
  let unresolved := resolution.parameters.filter (!·.isSatisfied)
  needing c (unresolved.flatMap (·.outcome.candidates)) (Container.conclude ctx c id resolution)

def checkWith (ctx : Context) (check : Option Check) : Check := fun c id => do
  let r ← c.registration? id
  let type := r.resolvedType
  if !type.isNamed then return (c, .error (.notNamedType type))
  else
    match Container.selectConstruction ctx type r.member with
    | .error fault => return (c, .error fault)
    | .ok none => return (c, .ok ())
    | .ok (some construction) =>
      match ← resolveParameters ctx check c construction.parameters with
      | (c, .error fault) => return (c, .error fault)
      | (c, .ok parameters) => conclude ctx c id ⟨type, r.lifetime, construction, parameters⟩

def checkWithin (ctx : Context) : Nat → Check
  | 0 => checkWith ctx none
  | levels + 1 => checkWith ctx (some (checkWithin ctx levels))

def check (c : Container) (ctx : Context) (id : RegistrationId) : Option (Step Unit) :=
  checkWithin ctx (ctx.settings.maxSpecializationDepth - c.specializationDepth) c id

/-- The graph is made of what the hard parameters selected, or of what that collects. -/
def validate (c : Container) : Option (Except Fault Unit) :=
  let hard := c.closedResolutions.flatMap fun resolution =>
    resolution.parameters.filter (·.isHard)
  needing c (hard.filterMap (·.outcome.selected?) ++ hard.flatMap c.targets) c.validate

def checkEach (ctx : Context) : Container → List RegistrationId → Option (Step Unit)
  | c, [] => some (c, .ok ())
  | c, id :: rest => do
    let r ← c.registration? id
    if r.isClosed then
      match ← check c ctx id with
      | (c, .error fault) => return (c, .error fault)
      | (c, .ok ()) => checkEach ctx c rest
    else checkEach ctx c rest

def assemble (ctx : Context) (provider : TypeExpr) : Option Assembly :=
  match ctx.program.declaredServices provider with
  | .error fault => some ⟨.empty, [], .error fault⟩
  | .ok services => do
    let declared ← addAll .empty ctx services
    match ← checkEach ctx declared (List.range declared.size) with
    | (c, .error fault) => return ⟨c, c.warnings, .error fault⟩
    | (c, .ok ()) =>
      let result ← validate c
      return ⟨c, c.warnings ++ c.lifetimeWarnings, result⟩

end Wiring.Strict
