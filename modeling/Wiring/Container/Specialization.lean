import Wiring.Container.Collection

/-!
Specialization. A closed generic type without a registration is served from the one open
registration of its definition: the open implementation is closed over the arguments asked for and
registered, with a registration for each of its bases, and then checked in its turn.
-/

namespace Wiring

/-- A step that may fail and keeps what it changed before it failed. -/
abbrev Step (α : Type) := Container × Except Fault α

/-- A check of one registration. -/
abbrev Check := Container → RegistrationId → Step Unit

namespace Container

/-- The bases under which a closed type is registered. -/
def servedBases (ctx : Context) (closed : TypeExpr) : List TypeExpr :=
  (ctx.program.baseTypes closed).filter fun base =>
    !(ctx.settings.ignoresBase base || base.same closed)

/-- Registers `base` as implemented by `closed`, and the closed registration `id` with the
collection of `base`. -/
def addBase (ctx : Context) (template : Service) (closed : TypeExpr) (id : RegistrationId)
    (c : Container) (base : TypeExpr) : Container :=
  (c.add ctx { template with type := base, implementation := some closed }).enlist base id

/-- Registers the closed type, then its bases. -/
def addSpecialization (c : Container) (ctx : Context) (template : Service) : Container :=
  let id := c.size
  let closed := template.type
  let added := (c.add ctx template).note (.specialized id)
  ((servedBases ctx closed).foldl (addBase ctx template closed id) added).enlist closed id

/-- Checks the registration `id` as one more specialization inside those under way. -/
def checkNested (check : Check) (c : Container) (id : RegistrationId) : Step Unit :=
  let (c, result) := check { c with specializationDepth := c.specializationDepth + 1 } id
  ({ c with specializationDepth := c.specializationDepth - 1 }, result)

/-- Leads requests for `target` to the closed type. -/
def aliasOf (target closed : TypeExpr) (source : Registration) : Service where
  type := target
  lifetime := source.lifetime
  implementation := some closed
  key := source.key

/-- The open registration `source`, closed over the arguments of `target`. -/
def closedOver (target : TypeExpr) (source : Registration) : Service where
  type := source.resolvedType.construct target.args
  lifetime := source.lifetime
  member := source.member.map (·.substitute (source.resolvedType.bindings target))
  key := source.key

/-- Serves `target` from the open registration `source`. Without `check`, or where as many
specializations are under way as the settings allow, no closed type is added. -/
def specializeFrom (ctx : Context) (check : Option Check) (c : Container) (target : TypeExpr)
    (source : Registration) : Step Outcome :=
  let implementation := source.resolvedType
  if implementation.args.length ≠ target.args.length then
    (c.note (.warned (.arityMismatch target implementation)), .ok .undeclared)
  else
    let closed := implementation.construct target.args
    match c.underKey source.key (c.servicesFor closed) with
    | existing :: _ =>
      if closed.same target then (c, .ok (.selected existing))
      else (c.add ctx (aliasOf target closed source), .ok (.selected existing))
    | [] =>
      let limit := ctx.settings.maxSpecializationDepth
      match if c.specializationDepth < limit then check else none with
      | none => (c, .error (.specializationDepthExceeded closed limit))
      | some check =>
        match checkNested check (c.addSpecialization ctx (closedOver target source)) c.size with
        | (after, .ok ()) => (after, .ok (.selected c.size))
        | (after, .error fault) => (after, .error fault)

def specialize (ctx : Context) (check : Option Check) (c : Container) (target : TypeExpr) :
    Step Outcome :=
  match ctx.program.genericDefinition target with
  | none => (c, .ok .undeclared)
  | some definition =>
    match c.underKey none (c.servicesFor definition) with
    | [] => (c, .ok .undeclared)
    | [opened] =>
      let id := c.follow ctx opened
      match c.registration? id with
      | some source => specializeFrom ctx check c target source
      | none => (c, .error (.unissuedId id))
    | several => (c, .ok (.ambiguous several))

end Container
end Wiring
