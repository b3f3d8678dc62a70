import Mathlib.Logic.Relation
import Wiring.Proofs.Check.Forecast

/-!
Declared services of which a run comes to the same in whatever order they are declared. What serves
a request may still depend on the order, and then so may the lifetime with which something is
constructed, and what waits for what. So the waits that some order may have and those that every
order has are told apart, and only a circle has to be one of every order if it is one of some.
-/

namespace Wiring

/-- What a service counts for where it is required. -/
structure Role where
  type : TypeExpr
  lifetime : Lifetime
  deriving DecidableEq

def Service.role (service : Service) : Role := ⟨service.resolvedType.unannotated, service.lifetime⟩

namespace Forecast

open Container

section Services

variable (ctx : Context) (services : List Service)

/-- A request for the declared service may be served in this role: as the service that it leads to,
or, where checks register something under its implementation, as that or as the service itself. -/
inductive Leads (service : Service) : Role → Prop
  | lead : Leads service (lead services service).role
  | itself {implementation : TypeExpr} {registered : Service} {found : Answer} :
      service.key = none → service.implementation = some implementation →
      ¬ implementation.same service.type → Registers ctx services registered found →
      registered.type.same implementation → Leads service service.role
  | registered {implementation : TypeExpr} {registered : Service} {found : Answer} :
      service.key = none → service.implementation = some implementation →
      ¬ implementation.same service.type → Registers ctx services registered found →
      registered.type.same implementation → under services none implementation = [] →
      Leads service registered.role

/-- What is registered for the answer may lead to a registration in this role. -/
inductive Yields : Answer → Role → Prop
  | closed {template : Service} :
      Closing ctx services template → Yields (answerFor ctx services template) template.role
  | existing {template service : Service} :
      IsTemplate ctx services template → service ∈ under services none template.type →
      Yields (answerFor ctx services template) service.role
  /-- The redirection to a closed type that is registered more than once leads to itself. -/
  | several {template : Service} :
      IsTemplate ctx services template → 2 ≤ (under services none template.type).length →
      Yields (answerFor ctx services template) template.role
  | joined {template registered : Service} {found : Answer} :
      IsTemplate ctx services template → Registers ctx services registered found →
      registered.type.same template.type → Yields (answerFor ctx services template) template.role
  | collection {element : TypeExpr} :
      Yields (.collection element) ⟨(TypeExpr.arrayOf element).unannotated, .transient⟩

/-- A request that comes to the answer may be served in this role, among others perhaps. -/
inductive Serves : Answer → Role → Prop
  | declared {service : Service} {role : Role} :
      Leads ctx services service role → Serves (.declared service) role
  | closed {found : Answer} {role : Role} :
      found.closedType?.isSome → Yields ctx services found role → Serves found role
  | member {element : TypeExpr} {service : Service} {role : Role} :
      service ∈ membersOf services element → Leads ctx services service role →
      Serves (.collection element) role
  | joined {element : TypeExpr} {registered : Service} {found : Answer} {role : Role} :
      Registers ctx services registered found → registered.type.same element →
      Yields ctx services found role → Serves (.collection element) role

/-- A specialization from the template belongs to the collection of the element type. -/
def Joins (template : Service) (element : TypeExpr) : Prop :=
  template.type.isClosed ∧
    (template.type.same element ∨ ∃ base ∈ servedBases ctx template.type, base.same element)

/-- A request that comes to the answer is served in a role as in `P`, whatever the order. -/
inductive Assures (P : Role → Prop) : Answer → Prop
  | declared {service : Service} :
      (∀ role, Leads ctx services service role → P role) → Assures P (.declared service)
  | closed {found : Answer} :
      found.closedType?.isSome → (∀ role, Yields ctx services found role → P role) →
      Assures P found
  | member {element : TypeExpr} {service : Service} :
      service ∈ membersOf services element → (∀ role, Leads ctx services service role → P role) →
      Assures P (.collection element)
  | joined {element : TypeExpr} {template : Service} :
      Closing ctx services template →
      (∀ other, Closing ctx services other →
        answerFor ctx services other = answerFor ctx services template →
        Joins ctx other element ∧ P other.role) →
      Assures P (.collection element)

/-- The construction of the consumer cannot go on before what serves the parameter is there. With a
deferred reference it can, unless both are transient. -/
def Awaits (consumer : Service) (parameter : Parameter) (role : Role) : Prop :=
  (ctx.settings.deferredInner? (ctx.settings.unwrapNullable parameter.type).1).isSome →
    consumer.lifetime = .transient ∧ role.lifetime = .transient

/-- In some order the closed type may wait for the other one. -/
def MayWait (a b : TypeExpr) : Prop :=
  ∃ consumer parameter role, Checked ctx services consumer ∧ consumer.resolvedType.isClosed ∧
    consumer.resolvedType.same a ∧ parameter ∈ parametersOf ctx consumer ∧
    isOptional ctx parameter = false ∧ selects ctx services parameter ∧
    Serves ctx services (answerTo ctx services parameter) role ∧
    Awaits ctx consumer parameter role ∧ role.type.same b

/-- In every order the closed type waits for the other one, whichever service of the type is the one
that is checked last. -/
def MustWait (a b : TypeExpr) : Prop :=
  (∃ consumer parameters, Checked ctx services consumer ∧ consumer.resolvedType.isClosed ∧
    consumer.resolvedType.same a ∧ recipe ctx consumer = some (some parameters)) ∧
  ∀ consumer parameters, Checked ctx services consumer → consumer.resolvedType.same a →
    recipe ctx consumer = some (some parameters) →
    ∃ parameter ∈ parameters, isOptional ctx parameter = false ∧ selects ctx services parameter ∧
      Assures ctx services (fun role => Awaits ctx consumer parameter role ∧ role.type.same b)
        (answerTo ctx services parameter)

/-- The construction of the first service asks for the second, which is a specialization. -/
def Nests (outer inner : Service) : Prop :=
  ∃ parameter ∈ parametersOf ctx outer, ClosedBy ctx services parameter inner

/-- Specializations of different types. -/
structure Distinct (chain : List Service) : Prop where
  apart : chain.Pairwise fun first second => ¬ first.type.same second.type
  closing : ∀ template ∈ chain, Closing ctx services template

/-- The types to be specialized come to an end. -/
def Bounded : Prop := ∃ bound, ∀ chain, Distinct ctx services chain → chain.length ≤ bound

/-- What is declared tells what becomes of every request that matters. -/
structure Orderly : Prop where
  /-- What a check registers under a type is what those who look it up come to without it. -/
  apart (type : TypeExpr) (found registered : Answer) (service : Service) :
    LooksUp ctx services type found → Registers ctx services service registered →
    type.same service.type → found = registered
  /-- A specialization serves each base that is looked up once. -/
  bases (type : TypeExpr) (found : Answer) (template : Service) :
    LooksUp ctx services type found → Closing ctx services template →
    (servedBases ctx template.type).Pairwise fun first second =>
      ¬ (first.same type ∧ second.same type)
  /-- Where a collection is looked up, its shapes are told apart. -/
  names (type element : TypeExpr) :
    LooksUp ctx services type (.collection element) → ctx.settings.NamesApart
  /-- No service is implemented by a shape. -/
  unshaped (service shape : Service) (implementation element : TypeExpr) : service ∈ services →
    service.key = none → service.implementation = some implementation →
    ¬ implementation.same service.type → Registers ctx services shape (.collection element) →
    ¬ shape.type.same implementation
  /-- If types may wait in a circle, then some do in every order. -/
  circles : (∃ type, Relation.TransGen (MayWait ctx services) type type) →
    ∃ type, Relation.TransGen (MustWait ctx services) type type
  /-- Specializations nested in one another are no more than may be. -/
  depth : Bounded ctx services → ∀ chain, Distinct ctx services chain →
    chain.IsChain (fun inner outer => Nests ctx services outer inner) →
    chain.length ≤ ctx.settings.maxSpecializationDepth

end Services

theorem Joins.congr {ctx : Context} {template : Service} {element other : TypeExpr}
    (h : Joins ctx template element) (hsame : element.same other) : Joins ctx template other := by
  refine ⟨h.1, h.2.imp (fun htype => TypeExpr.same_trans htype hsame) ?_⟩
  rintro ⟨base, hbase, htype⟩
  exact ⟨base, hbase, TypeExpr.same_trans htype hsame⟩

theorem Serves.congr {ctx : Context} {services : List Service} {element other : TypeExpr}
    {role : Role} (h : Serves ctx services (.collection element) role)
    (hsame : element.same other) : Serves ctx services (.collection other) role := by
  cases h with
  | closed hclosed _ => cases hclosed
  | member hmem hleads =>
    rw [membersOf_congr hsame] at hmem
    exact .member hmem hleads
  | joined hregisters htype hyields =>
    exact .joined hregisters (TypeExpr.same_trans htype hsame) hyields

theorem Yields.ne_undeclared {ctx : Context} {services : List Service} {found : Answer}
    {role : Role} (h : Yields ctx services found role) : found ≠ .undeclared := by
  have hanswer (template : Service) : answerFor ctx services template ≠ .undeclared := by
    unfold answerFor
    split <;> simp
  cases h with
  | closed _ => exact hanswer _
  | existing _ _ => exact hanswer _
  | several _ _ => exact hanswer _
  | joined _ _ _ => exact hanswer _
  | collection => simp

/-! The order of the services does not matter. -/

section Order

variable {ctx : Context} {services services' : List Service} (h : services.Perm services')
include h

theorem Leads.perm {service : Service} {role : Role} (hl : Leads ctx services service role) :
    Leads ctx services' service role := by
  cases hl with
  | lead =>
    rw [lead_perm h]
    exact .lead
  | itself hkey himplementation hother hregisters hsame =>
    exact .itself hkey himplementation hother (hregisters.perm h) hsame
  | registered hkey himplementation hother hregisters hsame hnone =>
    exact .registered hkey himplementation hother (hregisters.perm h) hsame
      (under_eq_nil_perm h hnone)

theorem Yields.perm {found : Answer} {role : Role} (hy : Yields ctx services found role) :
    Yields ctx services' found role := by
  cases hy with
  | closed hc =>
    rw [answerFor_perm h]
    exact .closed (hc.perm h)
  | existing hc hmem =>
    rw [answerFor_perm h]
    exact .existing (hc.perm h) ((under_perm h _ _).mem_iff.1 hmem)
  | several hc hlength =>
    rw [answerFor_perm h]
    exact .several (hc.perm h) (by rwa [← (under_perm h _ _).length_eq])
  | joined hc hregisters hsame =>
    rw [answerFor_perm h]
    exact .joined (hc.perm h) (hregisters.perm h) hsame
  | collection => exact .collection

theorem Serves.perm {found : Answer} {role : Role} (hs : Serves ctx services found role) :
    Serves ctx services' found role := by
  cases hs with
  | declared hleads => exact .declared (hleads.perm h)
  | closed hclosed hyields => exact .closed hclosed (hyields.perm h)
  | member hmem hleads => exact .member ((membersOf_perm h _).mem_iff.1 hmem) (hleads.perm h)
  | joined hregisters hsame hyields => exact .joined (hregisters.perm h) hsame (hyields.perm h)

theorem Assures.perm {P : Role → Prop} {found : Answer} (ha : Assures ctx services P found) :
    Assures ctx services' P found := by
  cases ha with
  | declared hall => exact .declared fun role hleads => hall role (hleads.perm h.symm)
  | closed hclosed hall => exact .closed hclosed fun role hyields => hall role (hyields.perm h.symm)
  | member hmem hall =>
    exact .member ((membersOf_perm h _).mem_iff.1 hmem) fun role hleads =>
      hall role (hleads.perm h.symm)
  | joined hc hall =>
    refine .joined (hc.perm h) fun other hother hanswer => hall other (hother.perm h.symm) ?_
    rw [answerFor_perm h, hanswer, answerFor_perm h]

theorem MayWait.perm {a b : TypeExpr} (hw : MayWait ctx services a b) :
    MayWait ctx services' a b := by
  obtain ⟨consumer, parameter, role, hchecked, hclosed, ha, hparameter, hrequired, hselects,
    hserves, hrest⟩ := hw
  refine ⟨consumer, parameter, role, hchecked.perm h, hclosed, ha, hparameter, hrequired, ?_, ?_,
    hrest⟩
  · rwa [← selects_perm h]
  · rw [← answerTo_perm h]
    exact hserves.perm h

theorem MustWait.perm {a b : TypeExpr} (hw : MustWait ctx services a b) :
    MustWait ctx services' a b := by
  obtain ⟨⟨consumer, parameters, hchecked, hrest⟩, hall⟩ := hw
  refine ⟨⟨consumer, parameters, hchecked.perm h, hrest⟩, ?_⟩
  intro consumer parameters hchecked hsame hrecipe
  obtain ⟨parameter, hparameter, hrequired, hselects, hassures⟩ :=
    hall consumer parameters (hchecked.perm h.symm) hsame hrecipe
  refine ⟨parameter, hparameter, hrequired, by rwa [← selects_perm h], ?_⟩
  rw [← answerTo_perm h]
  exact hassures.perm h

theorem mayWait_perm : MayWait ctx services = MayWait ctx services' := by
  funext a b
  exact propext ⟨MayWait.perm h, MayWait.perm h.symm⟩

theorem mustWait_perm : MustWait ctx services = MustWait ctx services' := by
  funext a b
  exact propext ⟨MustWait.perm h, MustWait.perm h.symm⟩

theorem Distinct.perm {chain : List Service} (hd : Distinct ctx services chain) :
    Distinct ctx services' chain :=
  ⟨hd.apart, fun template hmem => (hd.closing template hmem).perm h⟩

theorem Bounded.perm (hb : Bounded ctx services) : Bounded ctx services' := by
  obtain ⟨bound, hbound⟩ := hb
  exact ⟨bound, fun chain hd => hbound chain (hd.perm h.symm)⟩

theorem Orderly.perm (ho : Orderly ctx services) : Orderly ctx services' where
  apart type found registered service hl hr :=
    ho.apart type found registered service (hl.perm h.symm) (hr.perm h.symm)
  bases type found template hl hc := ho.bases type found template (hl.perm h.symm) (hc.perm h.symm)
  names type element hl := ho.names type element (hl.perm h.symm)
  unshaped service shape implementation element hmem hkey himplementation hother hr :=
    ho.unshaped service shape implementation element (h.mem_iff.2 hmem) hkey himplementation hother
      (hr.perm h.symm)
  circles := by
    rw [← mayWait_perm h, ← mustWait_perm h]
    exact ho.circles
  depth hb chain hd hchain := by
    refine ho.depth (hb.perm h.symm) chain (hd.perm h.symm) (hchain.imp ?_)
    rintro inner outer ⟨parameter, hparameter, hcloses⟩
    exact ⟨parameter, hparameter, hcloses.perm h.symm⟩

end Order
end Forecast
end Wiring
