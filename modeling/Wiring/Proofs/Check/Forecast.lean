import Mathlib.Data.List.Perm.Basic
import Wiring.Proofs.Check.Fallback
import Wiring.Proofs.Check.Family

/-!
What the requests of a run come to, told from the declared services alone, before anything is
checked; and what the checks look up and register on the way. Nothing of it depends on the order of
the declarations.
-/

namespace Wiring

/-- What a request comes to. -/
inductive Answer where
  | undeclared
  | ambiguous
  /-- The service declared for the type, or what that one leads to. -/
  | declared (service : Service)
  /-- What is declared for the closed type that the request is closed to. -/
  | existing (type : TypeExpr)
  /-- A specialization, constructed from these parameters if from any. -/
  | closed (type : TypeExpr) (recipe : Option (Option (List Parameter)))
  /-- All services of the element type. -/
  | collection (element : TypeExpr)
  deriving DecidableEq

/-- The type that the request is closed to. -/
def Answer.closedType? : Answer → Option TypeExpr
  | closed type _ | existing type => some type
  | undeclared | ambiguous | declared _ | collection _ => none

theorem Answer.existing_or_closed {found : Answer} (h : found.closedType?.isSome) :
    (∃ type, found = .existing type) ∨ ∃ type recipe, found = .closed type recipe := by
  cases found with
  | existing type => exact Or.inl ⟨type, rfl⟩
  | closed type recipe => exact Or.inr ⟨type, recipe, rfl⟩
  | undeclared => cases h
  | ambiguous => cases h
  | declared _ => cases h
  | collection _ => cases h

namespace Forecast

open Container

/-- Tells lists of no, one and several elements apart. -/
def pick {α β : Type} (none several : β) (one : α → β) : List α → β
  | [] => none
  | [x] => one x
  | _ :: _ :: _ => several

/-- The services declared for the type under exactly this key. -/
def under (services : List Service) (key : Option String) (type : TypeExpr) : List Service :=
  services.filter fun service => service.type.same type && service.key == key

/-- The service that a request for this one is served by, as long as only services are declared. -/
def lead (services : List Service) (service : Service) : Service :=
  match service.implementation with
  | none => service
  | some implementation =>
    if implementation.same service.type then service
    else pick service service id (under services service.key implementation)

/-- The declared services that a collection of the element type has a place for. -/
def membersOf (services : List Service) (element : TypeExpr) : List Service :=
  services.filter fun service => service.type.same element && service.isClosed

/-- The parameters that the service is constructed from, if any; nothing where that is an error. -/
def recipe (ctx : Context) (service : Service) : Option (Option (List Parameter)) :=
  (selectConstruction ctx service.resolvedType service.member).toOption.map (·.map (·.parameters))

/-- The parameters that the check of the service resolves. -/
def parametersOf (ctx : Context) (service : Service) : List Parameter :=
  (recipe ctx service).join.getD []

/-- The open service `source`, closed over the arguments of `target`. -/
def closeOver (target : TypeExpr) (source : Service) : Service where
  type := source.resolvedType.construct target.args
  lifetime := source.lifetime
  member := source.member.map (·.substitute (source.resolvedType.bindings target))
  key := source.key

/-- The open services declared for the definition of the type. -/
def openedFor (ctx : Context) (services : List Service) (target : TypeExpr) : List Service :=
  match ctx.program.genericDefinition target with
  | none => []
  | some definition => under services none definition

/-- The service that a request for the type is closed to, where it has to be closed and can be. -/
def template? (ctx : Context) (services : List Service) (target : TypeExpr) : Option Service :=
  if services.any (·.type.same target) || (ctx.settings.collectionElement? target).isSome ||
      !target.isGeneric then none
  else
    pick none none (fun opened =>
        let source := lead services opened
        if source.resolvedType.args.length = target.args.length then some (closeOver target source)
        else none)
      (openedFor ctx services target)

/-- What a request that is closed to the template comes to. -/
def answerFor (ctx : Context) (services : List Service) (template : Service) : Answer :=
  if (under services none template.type).isEmpty then
    .closed template.type.unannotated (recipe ctx template)
  else .existing template.type.unannotated

def answer (ctx : Context) (services : List Service) (key : Option String) (target : TypeExpr) :
    Answer :=
  if services.any (·.type.same target) then
    pick .undeclared .ambiguous .declared (under services key target)
  else if key.isSome then .undeclared
  else
    match ctx.settings.collectionElement? target with
    | some element => .collection element.unannotated
    | none =>
      match template? ctx services target with
      | some template => answerFor ctx services template
      | none =>
        if target.isGeneric && 2 ≤ (openedFor ctx services target).length then .ambiguous
        else .undeclared

/-- The type that a parameter has to be served with. -/
def requested (ctx : Context) (parameter : Parameter) : TypeExpr :=
  targetOf ctx (ctx.settings.unwrapNullable parameter.type).1

/-- What a parameter comes to. -/
def answerTo (ctx : Context) (services : List Service) (parameter : Parameter) : Answer :=
  answer ctx services parameter.key (requested ctx parameter)

/-- The construction can do without the parameter. -/
def isOptional (ctx : Context) (parameter : Parameter) : Bool :=
  (ctx.settings.unwrapNullable parameter.type).2 || parameter.default?.isSome

/-- The parameter selects something. -/
def selects (ctx : Context) (services : List Service) (parameter : Parameter) : Bool :=
  match answerTo ctx services parameter with
  | .declared _ | .existing _ | .closed .. => true
  | .collection element => !(parameter.requiresNonEmpty && (membersOf services element).isEmpty)
  | .undeclared | .ambiguous => false

/-- The construction can do with what the parameter comes to. -/
def isMet (ctx : Context) (services : List Service) (parameter : Parameter) : Bool :=
  selects ctx services parameter ||
    (answerTo ctx services parameter != .ambiguous &&
      Fallback.supplies ctx.fallback parameter.key (requested ctx parameter)) ||
    isOptional ctx parameter

section Services

variable (ctx : Context) (services : List Service)

/-- The parameter is served by this specialization. -/
structure ClosedBy (parameter : Parameter) (template : Service) : Prop where
  key : parameter.key = none
  closes : template? ctx services (requested ctx parameter) = some template
  new : under services none template.type = []

/-- A run checks the service, or something that is constructed as it is. -/
inductive Checked : Service → Prop
  | declared {service : Service} : service ∈ services → service.isClosed → Checked service
  | closed {service template : Service} {parameter : Parameter} :
      Checked service → parameter ∈ parametersOf ctx service →
      ClosedBy ctx services parameter template → Checked template

/-- A parameter asks for the type, without a key. -/
def Asks (target : TypeExpr) : Prop :=
  ∃ service parameter, Checked ctx services service ∧ parameter ∈ parametersOf ctx service ∧
    parameter.key = none ∧ requested ctx parameter = target

/-- A request is closed to the service. -/
def IsTemplate (template : Service) : Prop :=
  ∃ target, Asks ctx services target ∧ template? ctx services target = some template

/-- The service is a specialization that a request comes to. -/
structure Closing (template : Service) : Prop where
  isTemplate : IsTemplate ctx services template
  new : under services none template.type = []

/-- The parameter has to be served, and is looked up without a key. -/
structure Needs (parameter : Parameter) : Prop where
  asked : ∃ service, Checked ctx services service ∧ parameter ∈ parametersOf ctx service
  key : parameter.key = none
  required : isOptional ctx parameter = false

/-- Services without a key are looked up under the type on the way to this answer, which is another
one if checks have registered something there that does not stand for it. -/
inductive LooksUp : TypeExpr → Answer → Prop
  | needed {parameter : Parameter} : Needs ctx services parameter →
      LooksUp (requested ctx parameter) (answerTo ctx services parameter)
  | closes {target : TypeExpr} {template : Service} :
      Asks ctx services target → template? ctx services target = some template →
      under services none template.type = [] → LooksUp target (answerFor ctx services template)
  | closed {template : Service} :
      Closing ctx services template → LooksUp template.type (answerFor ctx services template)
  | definition {target definition : TypeExpr} :
      Asks ctx services target → ctx.program.genericDefinition target = some definition →
      LooksUp definition .undeclared
  | implementation {target implementation : TypeExpr} {opened : Service} :
      Asks ctx services target → opened ∈ openedFor ctx services target →
      opened.implementation = some implementation → ¬ implementation.same opened.type →
      LooksUp implementation .undeclared
  | element {parameter : Parameter} {element : TypeExpr} :
      Needs ctx services parameter → parameter.requiresNonEmpty →
      answerTo ctx services parameter = .collection element → membersOf services element = [] →
      LooksUp element .undeclared

/-- The registration that leads requests for the type to the closed type. -/
def redirectOf (target : TypeExpr) (template : Service) : Service where
  type := target
  lifetime := template.lifetime
  implementation := some template.type

/-- Checks register the service, which stands for this answer. -/
inductive Registers : Service → Answer → Prop
  | closed {template : Service} :
      Closing ctx services template → Registers template (answerFor ctx services template)
  | base {template : Service} {base : TypeExpr} :
      Closing ctx services template → base ∈ servedBases ctx template.type →
      Registers (mirrorOf template template.type base) (answerFor ctx services template)
  | redirect {target : TypeExpr} {template : Service} :
      Asks ctx services target → template? ctx services target = some template →
      ¬ template.type.same target →
      Registers (redirectOf target template) (answerFor ctx services template)
  | shape {target element : TypeExpr} {shape : Service} :
      Asks ctx services target → answer ctx services none target = .collection element.unannotated →
      shape ∈ shapesOf ctx element → Registers shape (.collection element.unannotated)

end Services

variable {ctx : Context} {services : List Service} {target : TypeExpr} {template service : Service}
  {parameter : Parameter}

theorem recipe_of_selectConstruction {construction : Option Construction}
    (h : selectConstruction ctx service.resolvedType service.member = .ok construction) :
    recipe ctx service = some (construction.map (·.parameters)) := by
  unfold recipe
  rw [h]
  rfl

theorem parametersOf_eq {parameters : Option (List Parameter)}
    (h : recipe ctx service = some parameters) :
    parametersOf ctx service = parameters.getD [] := by
  unfold parametersOf
  rw [h]
  rfl

theorem mem_under {key : Option String} {type : TypeExpr} :
    service ∈ under services key type ↔
      service ∈ services ∧ service.type.same type ∧ service.key = key := by
  simp [under]

theorem under_congr {key : Option String} {type other : TypeExpr} (h : type.same other) :
    under services key type = under services key other := by
  unfold under
  simp only [fun service : Service => TypeExpr.same_congr service.type h]

theorem mem_membersOf {element : TypeExpr} :
    service ∈ membersOf services element ↔
      service ∈ services ∧ service.type.same element ∧ service.isClosed := by
  simp [membersOf]

theorem membersOf_congr {element other : TypeExpr} (h : element.same other) :
    membersOf services element = membersOf services other := by
  unfold membersOf
  simp only [fun service : Service => TypeExpr.same_congr service.type h]

theorem lead_key (services : List Service) (service : Service) :
    (lead services service).key = service.key := by
  unfold lead
  split
  · rfl
  next implementation _ =>
  split
  · rfl
  match hunder : under services service.key implementation with
  | [] => rfl
  | [next] =>
    have hnext : next ∈ under services service.key implementation := by simp [hunder]
    exact (mem_under.1 hnext).2.2
  | _ :: _ :: _ => rfl

theorem key_of_mem_openedFor (h : service ∈ openedFor ctx services target) :
    service.key = none := by
  unfold openedFor at h
  split at h
  · cases h
  · exact (mem_under.1 h).2.2

/-- Why a request is closed to the template. -/
structure ClosesTo (ctx : Context) (services : List Service) (target : TypeExpr)
    (template : Service) : Prop where
  free (service : Service) : service ∈ services → ¬ service.type.same target
  noCollection : ctx.settings.collectionElement? target = none
  generic : target.isGeneric
  opened : ∃ opened, openedFor ctx services target = [opened] ∧
    (lead services opened).resolvedType.args.length = target.args.length ∧
    template = closeOver target (lead services opened)

theorem closesTo_of_template? (h : template? ctx services target = some template) :
    ClosesTo ctx services target template := by
  unfold template? at h
  split at h
  · cases h
  next hcloses =>
  simp only [Bool.or_eq_true, Bool.not_eq_true', not_or, Bool.not_eq_true, List.any_eq_false,
    Option.isSome_eq_false_iff, Option.isNone_iff_eq_none] at hcloses
  obtain ⟨⟨hfree, hnoCollection⟩, hgeneric⟩ := hcloses
  refine ⟨fun service hservice => by simpa using hfree service hservice, hnoCollection,
    by simpa using hgeneric, ?_⟩
  match hopened : openedFor ctx services target with
  | [] | _ :: _ :: _ =>
    rw [hopened] at h
    cases h
  | [opened] =>
    rw [hopened] at h
    dsimp only [pick] at h
    split at h
    · next harity => exact ⟨opened, rfl, harity, (Option.some.inj h).symm⟩
    · cases h

theorem ClosesTo.template?_eq (h : ClosesTo ctx services target template) :
    template? ctx services target = some template := by
  obtain ⟨opened, hopened, harity, rfl⟩ := h.opened
  have hfree : services.any (·.type.same target) = false :=
    List.any_eq_false.2 fun service hservice => by simpa using h.free service hservice
  simp [template?, hfree, h.noCollection, h.generic, hopened, pick, harity]

/-- A template has no key, and is its own implementation. -/
theorem ClosesTo.plain (h : ClosesTo ctx services target template) :
    template.key = none ∧ template.implementation = none ∧ template.collected = none := by
  obtain ⟨opened, hopened, -, rfl⟩ := h.opened
  have hmem : opened ∈ openedFor ctx services target := by
    rw [hopened]
    exact List.mem_singleton_self _
  exact ⟨(lead_key services opened).trans (key_of_mem_openedFor hmem), rfl, rfl⟩

theorem answer_of_template? (h : template? ctx services target = some template) :
    answer ctx services none target = answerFor ctx services template := by
  have hcloses := closesTo_of_template? h
  have hfree : services.any (·.type.same target) = false :=
    List.any_eq_false.2 fun service hservice => by simpa using hcloses.free service hservice
  simp [answer, hfree, hcloses.noCollection, h]

theorem answerFor_of_new (ctx : Context) (h : under services none template.type = []) :
    answerFor ctx services template = .closed template.type.unannotated (recipe ctx template) := by
  simp [answerFor, h]

theorem closedType?_answerFor (ctx : Context) (services : List Service) (template : Service) :
    (answerFor ctx services template).closedType? = some template.type.unannotated := by
  unfold answerFor
  split <;> rfl

theorem isSome_closedType?_answerFor (ctx : Context) (services : List Service)
    (template : Service) : (answerFor ctx services template).closedType?.isSome := by
  rw [closedType?_answerFor]
  rfl

theorem answerFor_ne_collection (element : TypeExpr) :
    answerFor ctx services template ≠ .collection element := by
  intro h
  have htype := congrArg Answer.closedType? h
  rw [closedType?_answerFor] at htype
  cases htype

/-- A request is answered by closing only if it is closed to a template. -/
theorem template?_of_answer {key : Option String}
    (h : (answer ctx services key target).closedType?.isSome) :
    key = none ∧ ∃ template, template? ctx services target = some template ∧
      answer ctx services key target = answerFor ctx services template := by
  unfold answer at h ⊢
  split at h
  · match hunder : under services key target with
    | [] | [_] | _ :: _ :: _ =>
      rw [hunder] at h
      cases h
  next hany =>
  rw [if_neg hany]
  split at h
  · cases h
  next hkey =>
  rw [if_neg hkey]
  split at h
  · cases h
  next hcollection =>
  split at h
  · next template htemplate => exact ⟨by simpa using hkey, template, htemplate, rfl⟩
  · split at h <;> cases h

/-- What a request has to be specialized for is specialized from a template. -/
theorem closedBy_of_answerTo {type : TypeExpr} {parameters : Option (Option (List Parameter))}
    (h : answerTo ctx services parameter = .closed type parameters) :
    ∃ template, ClosedBy ctx services parameter template := by
  have hclosed : (answerTo ctx services parameter).closedType?.isSome := by
    rw [h]
    rfl
  obtain ⟨hkey, template, htemplate, hanswer⟩ := template?_of_answer hclosed
  refine ⟨template, hkey, htemplate, ?_⟩
  rw [answerTo, hanswer, answerFor] at h
  split at h
  · next hnew => exact List.isEmpty_iff.1 hnew
  · cases h

theorem answer_ne_collection {key : Option String}
    (h : ctx.settings.collectionElement? target = none) (element : TypeExpr) :
    answer ctx services key target ≠ .collection element := by
  unfold answer
  rw [h]
  dsimp only
  split
  · unfold pick
    split <;> simp
  split
  · simp
  split
  · exact answerFor_ne_collection element
  · split <;> simp

theorem IsTemplate.plain (h : IsTemplate ctx services template) :
    template.key = none ∧ template.implementation = none ∧ template.collected = none := by
  obtain ⟨target, -, htemplate⟩ := h
  exact (closesTo_of_template? htemplate).plain

theorem Closing.resolvedType (h : Closing ctx services template) :
    template.resolvedType = template.type := by
  rw [Service.resolvedType, h.isTemplate.plain.2.1]
  rfl

theorem ClosedBy.answerTo_eq (h : ClosedBy ctx services parameter template) :
    answerTo ctx services parameter = answerFor ctx services template := by
  rw [answerTo, h.key, answer_of_template? h.closes]

theorem ClosedBy.closing (h : ClosedBy ctx services parameter template)
    (hchecked : Checked ctx services service) (hparameter : parameter ∈ parametersOf ctx service) :
    Closing ctx services template :=
  ⟨⟨_, ⟨service, parameter, hchecked, hparameter, h.key, rfl⟩, h.closes⟩, h.new⟩

theorem Closing.checked (h : Closing ctx services template) : Checked ctx services template := by
  obtain ⟨⟨target, ⟨service, parameter, hchecked, hparameter, hkey, rfl⟩, htemplate⟩, hnew⟩ := h
  exact .closed hchecked hparameter ⟨hkey, htemplate, hnew⟩

theorem Needs.asks (h : Needs ctx services parameter) :
    Asks ctx services (requested ctx parameter) := by
  obtain ⟨service, hchecked, hparameter⟩ := h.asked
  exact ⟨service, parameter, hchecked, hparameter, h.key, rfl⟩

/-- A request under a key, or for a type that is declared, is for a declared service. -/
theorem answer_of_declared {key : Option String}
    (h : services.any (·.type.same target) ∨ key.isSome) :
    answer ctx services key target =
      pick .undeclared .ambiguous .declared (under services key target) := by
  unfold answer
  split
  · rfl
  next hnone =>
  have hunder : under services key target = [] := by
    refine List.filter_eq_nil_iff.2 fun service hservice => ?_
    have htype : ¬ service.type.same target := fun hsame =>
      hnone (List.any_eq_true.2 ⟨service, hservice, hsame⟩)
    simp [htype]
  rw [if_pos (h.resolve_left hnone), hunder]
  rfl

theorem Registers.key_eq_none {found : Answer} (h : Registers ctx services service found) :
    service.key = none := by
  cases h with
  | closed hclosing => exact hclosing.isTemplate.plain.1
  | base hclosing _ => exact hclosing.isTemplate.plain.1
  | redirect _ _ _ => rfl
  | shape _ _ hshape => exact (anonymous_of_mem_shapesOf hshape).1

theorem same_of_answerFor_eq {other : Service}
    (h : answerFor ctx services template = answerFor ctx services other) :
    template.type.same other.type := by
  have htype := congrArg Answer.closedType? h
  rw [closedType?_answerFor, closedType?_answerFor] at htype
  exact TypeExpr.same_iff.2 (Option.some.inj htype)

/-! The order of the services does not matter. -/

theorem pick_perm {α β : Type} (none several : β) (one : α → β) {xs xs' : List α}
    (h : xs.Perm xs') : pick none several one xs = pick none several one xs' := by
  match xs, h with
  | [], h => rw [h.nil_eq]
  | [x], h => rw [h.singleton_eq]
  | _ :: _ :: _, h =>
    match xs', h.length_eq with
    | _ :: _ :: _, _ => rfl

section Order

variable {ctx : Context} {services services' : List Service} (h : services.Perm services')
include h

theorem under_perm (key : Option String) (type : TypeExpr) :
    (under services key type).Perm (under services' key type) := h.filter _

theorem under_eq_nil_perm {key : Option String} {type : TypeExpr}
    (hnone : under services key type = []) : under services' key type = [] := by
  have hperm := under_perm h key type
  rw [hnone] at hperm
  exact hperm.symm.eq_nil

theorem lead_perm (service : Service) : lead services service = lead services' service := by
  unfold lead
  split
  · rfl
  · split
    · rfl
    · exact pick_perm _ _ _ (under_perm h _ _)

theorem membersOf_perm (element : TypeExpr) :
    (membersOf services element).Perm (membersOf services' element) := h.filter _

theorem openedFor_perm (ctx : Context) (target : TypeExpr) :
    (openedFor ctx services target).Perm (openedFor ctx services' target) := by
  unfold openedFor
  split
  · exact .nil
  · exact under_perm h _ _

theorem template?_perm (ctx : Context) (target : TypeExpr) :
    template? ctx services target = template? ctx services' target := by
  unfold template?
  rw [h.any_eq, pick_perm _ _ _ (openedFor_perm h ctx target)]
  simp only [lead_perm h]

theorem answerFor_perm (ctx : Context) (template : Service) :
    answerFor ctx services template = answerFor ctx services' template := by
  unfold answerFor
  rw [(under_perm h _ _).isEmpty_eq]

theorem answer_perm (key : Option String) (target : TypeExpr) :
    answer ctx services key target = answer ctx services' key target := by
  unfold answer
  rw [h.any_eq, template?_perm h, pick_perm _ _ _ (under_perm h key target),
    (openedFor_perm h ctx target).length_eq]
  simp only [answerFor_perm h]

theorem answerTo_perm (parameter : Parameter) :
    answerTo ctx services parameter = answerTo ctx services' parameter := answer_perm h _ _

theorem selects_perm (parameter : Parameter) :
    selects ctx services parameter = selects ctx services' parameter := by
  unfold selects
  rw [answerTo_perm h]
  split <;> try rfl
  rw [(membersOf_perm h _).isEmpty_eq]

theorem isMet_perm (parameter : Parameter) :
    isMet ctx services parameter = isMet ctx services' parameter := by
  unfold isMet
  rw [selects_perm h, answerTo_perm h]

theorem ClosedBy.perm {parameter : Parameter} {template : Service}
    (hc : ClosedBy ctx services parameter template) : ClosedBy ctx services' parameter template :=
  ⟨hc.key, by rw [← template?_perm h, hc.closes], under_eq_nil_perm h hc.new⟩

theorem Checked.perm {service : Service} (hc : Checked ctx services service) :
    Checked ctx services' service := by
  induction hc with
  | declared hmem hclosed => exact .declared (h.mem_iff.1 hmem) hclosed
  | closed _ hparameter hcloses ih => exact .closed ih hparameter (hcloses.perm h)

theorem Asks.perm {target : TypeExpr} (ha : Asks ctx services target) :
    Asks ctx services' target := by
  obtain ⟨service, parameter, hc, hrest⟩ := ha
  exact ⟨service, parameter, hc.perm h, hrest⟩

theorem IsTemplate.perm {template : Service} (hc : IsTemplate ctx services template) :
    IsTemplate ctx services' template := by
  obtain ⟨target, ha, htemplate⟩ := hc
  exact ⟨target, ha.perm h, by rw [← template?_perm h, htemplate]⟩

theorem Closing.perm {template : Service} (hc : Closing ctx services template) :
    Closing ctx services' template :=
  ⟨hc.isTemplate.perm h, under_eq_nil_perm h hc.new⟩

theorem Needs.perm {parameter : Parameter} (hn : Needs ctx services parameter) :
    Needs ctx services' parameter := by
  obtain ⟨service, hc, hparameter⟩ := hn.asked
  exact ⟨⟨service, hc.perm h, hparameter⟩, hn.key, hn.required⟩

theorem LooksUp.perm {type : TypeExpr} {found : Answer} (hl : LooksUp ctx services type found) :
    LooksUp ctx services' type found := by
  cases hl with
  | needed hn =>
    rw [answerTo_perm h]
    exact .needed (hn.perm h)
  | closes ha htemplate hnew =>
    rw [answerFor_perm h]
    exact .closes (ha.perm h) (by rw [← template?_perm h, htemplate]) (under_eq_nil_perm h hnew)
  | closed hc =>
    rw [answerFor_perm h]
    exact .closed (hc.perm h)
  | definition ha hdefinition => exact .definition (ha.perm h) hdefinition
  | implementation ha hopened himplementation hother =>
    exact .implementation (ha.perm h) ((openedFor_perm h ctx _).mem_iff.1 hopened) himplementation
      hother
  | element hn hnonEmpty hanswer hnone =>
    refine .element (hn.perm h) hnonEmpty (by rw [← answerTo_perm h, hanswer]) ?_
    have hperm := membersOf_perm h type
    rw [hnone] at hperm
    exact hperm.symm.eq_nil

theorem Registers.perm {service : Service} {found : Answer}
    (hr : Registers ctx services service found) : Registers ctx services' service found := by
  cases hr with
  | closed hc =>
    rw [answerFor_perm h]
    exact .closed (hc.perm h)
  | base hc hbase =>
    rw [answerFor_perm h]
    exact .base (hc.perm h) hbase
  | redirect ha htemplate hother =>
    rw [answerFor_perm h]
    exact .redirect (ha.perm h) (by rw [← template?_perm h, htemplate]) hother
  | shape ha hanswer hshape => exact .shape (ha.perm h) (by rw [← answer_perm h, hanswer]) hshape

end Order
end Forecast
end Wiring
