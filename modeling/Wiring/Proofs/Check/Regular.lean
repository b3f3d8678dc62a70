import Mathlib.Data.List.Forall2
import Mathlib.Data.List.Induction
import Mathlib.Data.List.Sort
import Wiring.Proofs.Check.Membership
import Wiring.Proofs.Check.Orderly

/-!
The containers that an orderly run goes through. Behind the declared services stand only
registrations that checks made, each for an answer that was foretold; so whatever a check looks up
there is what the declared services tell.
-/

namespace Wiring.Container

open Forecast

variable {ctx : Context} {services : List Service} {a b c : Container} {id : RegistrationId}
  {key : Option String} {type target : TypeExpr} {found : Answer} {service template : Service}

/-- The places of the entries that satisfy a test, in their order. -/
theorem forall₂_places {α : Type} (p : α → Bool) (xs : List α) :
    List.Forall₂ (fun (i : Nat) x => xs[i]? = some x)
      ((List.range xs.length).filter fun i => xs[i]?.any p) (xs.filter p) := by
  induction xs using List.reverseRecOn with
  | nil => exact .nil
  | append_singleton xs x ih =>
    have hold : ((List.range xs.length).filter fun i => (xs ++ [x])[i]?.any p) =
        (List.range xs.length).filter fun i => xs[i]?.any p := by
      refine List.filter_congr fun i hi => ?_
      rw [List.getElem?_append_left (List.mem_range.1 hi)]
    rw [List.length_append, List.length_singleton, List.range_succ, List.filter_append,
      List.filter_append, hold]
    refine List.rel_append (ih.imp fun i y hi => ?_) ?_
    · rw [List.getElem?_append_left (List.getElem?_eq_some_iff.1 hi).1, hi]
    · by_cases hx : p x <;> simp [hx]

/-- The registrations of a type under a key, with what the register holds of them. -/
theorem Arranged.forall₂_under (h : c.Arranged ctx) (key : Option String) (type : TypeExpr) :
    List.Forall₂ (fun (id : RegistrationId) service => c.register[id]? = some service)
      (c.underKey key (c.servicesFor type)) (under c.register key type) := by
  let named (service : Service) : Bool := service.type.same type && service.key == key
  have hplaces : c.underKey key (c.servicesFor type) =
      (List.range c.register.length).filter fun i => c.register[i]?.any named := by
    refine List.Pairwise.eq_of_mem_iff (r := (· < ·)) ?_ ?_ fun id => ?_
    · exact (h.ordered type).filter _
    · exact List.pairwise_lt_range.filter _
    · rw [mem_underKey_servicesFor h.coherent.listed, List.mem_filter, List.mem_range,
        Option.any_eq_true]
      simp only [named, Bool.and_eq_true, beq_iff_eq]
      refine ⟨fun hex => ⟨?_, hex⟩, fun hex => hex.2⟩
      obtain ⟨service, hid, -⟩ := hex
      exact (List.getElem?_eq_some_iff.1 hid).1
  rw [hplaces]
  exact forall₂_places named c.register

/-- Why a registration is there that nobody declared, and the answer that it stands for. -/
inductive Arises (ctx : Context) (services : List Service) (c : Container) :
    Answer → RegistrationId → Service → Prop
  | closed {id : RegistrationId} {template : Service} :
      .specialized id ∈ c.journal →
      Arises ctx services c (answerFor ctx services template) id template
  | base {closed : RegistrationId} {template : Service} {base : TypeExpr} {i : Nat} :
      .specialized closed ∈ c.journal → c.register[closed]? = some template →
      (servedBases ctx template.type)[i]? = some base →
      Arises ctx services c (answerFor ctx services template) (closed + 1 + i)
        (mirrorOf template template.type base)
  | redirect {id earlier : RegistrationId} {target : TypeExpr} {template existing : Service} :
      Asks ctx services target → template? ctx services target = some template →
      ¬ template.type.same target → ¬ c.IsShape id →
      (∀ before < id, ∀ other, c.register[before]? = some other → ¬ other.type.same target) →
      earlier < id → c.register[earlier]? = some existing → existing.key = none →
      existing.type.same template.type →
      Arises ctx services c (answerFor ctx services template) id (redirectOf target template)
  | shape {id : RegistrationId} {service : Service} {element : TypeExpr} {family : Family} :
      c.families.get? element = some family → id ∈ family.ids →
      Arises ctx services c (.collection element.unannotated) id service

/-- The registration is one that the answer tells. -/
def Found (ctx : Context) (services : List Service) (c : Container) (found : Answer)
    (id : RegistrationId) : Prop :=
  match found with
  | .declared _ | .existing _ =>
    ∃ service, c.register[id]? = some service ∧ Serves ctx services found service.role ∧
      ¬ c.IsEnumerable id
  | .closed .. =>
    ∃ template, c.register[id]? = some template ∧ answerFor ctx services template = found ∧
      .specialized id ∈ c.journal
  | .collection element => ∃ family, c.families.get? element = some family ∧ family.enumerable = id
  | .undeclared | .ambiguous => False

/-- What a parameter comes to before a fallback is asked. -/
inductive Obtains (ctx : Context) (services : List Service) (c : Container)
    (parameter : Parameter) : Outcome → Prop
  | selected {id : RegistrationId} : selects ctx services parameter →
      c.Found ctx services (answerTo ctx services parameter) id →
      Obtains ctx services c parameter (.selected id)
  | undeclared : selects ctx services parameter = false →
      answerTo ctx services parameter ≠ .ambiguous → Obtains ctx services c parameter .undeclared
  | ambiguous {ids : List RegistrationId} : answerTo ctx services parameter = .ambiguous →
      Obtains ctx services c parameter (.ambiguous ids)
  /-- What can be done without may come to anything, unless something has to be made for it. -/
  | optional {outcome : Outcome} : isOptional ctx parameter →
      (∀ type recipe, answerTo ctx services parameter ≠ .closed type recipe) →
      Obtains ctx services c parameter outcome

/-- The parameter was resolved as foretold. -/
def Meets (ctx : Context) (services : List Service) (c : Container) (parameter : Parameter)
    (p : ParameterResolution) : Prop :=
  ∃ outcome, c.Obtains ctx services parameter outcome ∧
    p = ⟨parameter, (ctx.settings.unwrapNullable parameter.type).1,
      (ctx.settings.unwrapNullable parameter.type).2,
      (ctx.settings.deferredInner? (ctx.settings.unwrapNullable parameter.type).1).isSome,
      if outcome = .undeclared ∧
          Fallback.supplies ctx.fallback parameter.key (requested ctx parameter) then .fallback
      else outcome⟩

/-- The resolution is that of a service that is checked, with its parameters as foretold. -/
def Explains (ctx : Context) (services : List Service) (c : Container) (resolution : Resolution) :
    Prop :=
  ∃ service, Checked ctx services service ∧ resolution.type = service.resolvedType ∧
    resolution.lifetime = service.lifetime ∧
    recipe ctx service = some (some resolution.construction.parameters) ∧
    List.Forall₂ (c.Meets ctx services) resolution.construction.parameters resolution.parameters

/-- The collection of the element type holds what the declared services tell: what the members
declared lead to, and the specializations that belong to it. -/
structure Gathers (ctx : Context) (services : List Service) (c : Container) (element : TypeExpr)
    (ids : List RegistrationId) : Prop where
  serves : ∀ id ∈ ids, ∃ service, c.register[id]? = some service ∧
    Serves ctx services (.collection element.unannotated) service.role
  members : ∀ member ∈ membersOf services element, ∃ id ∈ ids, ∃ service,
    c.register[id]? = some service ∧ Leads ctx services member service.role
  joined (closed : RegistrationId) (template : Service) : .specialized closed ∈ c.journal →
    c.register[closed]? = some template → Joins ctx template element → closed ∈ ids

/-- Nothing but the enumerables of families collects. -/
def OnlyEnumerablesCollect (c : Container) : Prop :=
  ∀ id r, c.registration? id = some r → r.collected.isSome → c.IsEnumerable id

/-- The container of a run in which all has gone as the declared services tell. -/
structure Regular (ctx : Context) (services : List Service) (c : Container) : Prop where
  arranged : c.Arranged ctx
  indexed : c.Indexed
  heads : services <+: c.register
  collects : c.OnlyEnumerablesCollect
  placed (closed : RegistrationId) : .specialized closed ∈ c.journal →
    ∃ template, c.Placed ctx closed template ∧ Closing ctx services template ∧
      ∀ i ≤ (servedBases ctx template.type).length, ¬ c.IsShape (closed + i)
  arises (id : RegistrationId) (service : Service) : services.length ≤ id →
    c.register[id]? = some service → ∃ found, c.Arises ctx services found id service
  behind (element : TypeExpr) (family : Family) : c.families.get? element = some family →
    services.length ≤ family.array
  asked (element : TypeExpr) (family : Family) : c.families.get? element = some family →
    ∃ target, Asks ctx services target ∧
      answer ctx services none target = .collection element.unannotated
  gathers (element : TypeExpr) (family : Family) : c.families.get? element = some family →
    c.Gathers ctx services element (c.elements family)
  explains (resolution : Resolution) : resolution ∈ c.resolutions →
    c.Explains ctx services resolution

/-- What checks register stands for what a request is closed to, or is a shape. -/
theorem Arises.answerFor_or_shape (h : c.Arises ctx services found id service) :
    (∃ template, found = answerFor ctx services template) ∨
      ∃ element family, c.families.get? element = some family ∧ id ∈ family.ids ∧
        found = .collection element.unannotated := by
  cases h with
  | closed _ => exact Or.inl ⟨_, rfl⟩
  | base _ _ _ => exact Or.inl ⟨_, rfl⟩
  | redirect _ _ _ _ _ _ _ _ _ => exact Or.inl ⟨_, rfl⟩
  | shape hfamily hmem => exact Or.inr ⟨_, _, hfamily, hmem, rfl⟩

/-! Growth keeps what was foretold. -/

theorem Grows.not_isShape (hgrows : a.Grows b) (hid : id < a.size) (h : ¬ a.IsShape id) :
    ¬ b.IsShape id :=
  fun hb => h (hgrows.isShape_of_lt hid hb)

theorem Arises.grow (h : a.Arises ctx services found id service) (hid : id < a.size)
    (hgrows : a.Grows b) : b.Arises ctx services found id service := by
  cases h with
  | closed hclosed => exact .closed (hgrows.journal.subset hclosed)
  | base hclosed htemplate hbase =>
    exact .base (hgrows.journal.subset hclosed) (hgrows.register_eq_some htemplate) hbase
  | redirect hasks htemplate hother hshape hfirst hlt hearlier hnone hexisting =>
    refine .redirect hasks htemplate hother (hgrows.not_isShape hid hshape) ?_ hlt
      (hgrows.register_eq_some hearlier) hnone hexisting
    intro before hbefore other hregister
    exact hfirst before hbefore other
      (hgrows.register_of_lt (Nat.lt_trans hbefore hid) hregister)
  | shape hfamily hmem => exact .shape (hgrows.families _ _ hfamily) hmem

theorem Grows.not_isEnumerable (hgrows : a.Grows b) (hid : a.register[id]? = some service)
    (h : ¬ a.IsEnumerable id) : ¬ b.IsEnumerable id :=
  fun hb => h (hgrows.isEnumerable_of_lt (lt_of_register hid) hb)

theorem Found.grow (h : a.Found ctx services found id) (hgrows : a.Grows b) :
    b.Found ctx services found id := by
  have hserved (h : ∃ service, a.register[id]? = some service ∧
      Serves ctx services found service.role ∧ ¬ a.IsEnumerable id) :
      ∃ service, b.register[id]? = some service ∧ Serves ctx services found service.role ∧
        ¬ b.IsEnumerable id := by
    obtain ⟨service, hid, hserves, henumerable⟩ := h
    exact ⟨service, hgrows.register_eq_some hid, hserves, hgrows.not_isEnumerable hid henumerable⟩
  cases found with
  | declared _ => exact hserved h
  | existing _ => exact hserved h
  | closed _ _ =>
    obtain ⟨template, hid, hanswer, hclosed⟩ := h
    exact ⟨template, hgrows.register_eq_some hid, hanswer, hgrows.journal.subset hclosed⟩
  | collection element =>
    obtain ⟨family, hfamily, henumerable⟩ := h
    exact ⟨family, hgrows.families _ _ hfamily, henumerable⟩
  | undeclared => exact h
  | ambiguous => exact h

theorem Obtains.grow {parameter : Parameter} {outcome : Outcome}
    (h : a.Obtains ctx services parameter outcome) (hgrows : a.Grows b) :
    b.Obtains ctx services parameter outcome := by
  cases h with
  | selected hselects hfound => exact .selected hselects (hfound.grow hgrows)
  | undeclared hselects hanswer => exact .undeclared hselects hanswer
  | ambiguous hanswer => exact .ambiguous hanswer
  | optional hoptional hanswer => exact .optional hoptional hanswer

theorem Meets.grow {parameter : Parameter} {p : ParameterResolution}
    (h : a.Meets ctx services parameter p) (hgrows : a.Grows b) :
    b.Meets ctx services parameter p := by
  obtain ⟨outcome, hobtains, hp⟩ := h
  exact ⟨outcome, hobtains.grow hgrows, hp⟩

theorem Explains.grow {resolution : Resolution} (h : a.Explains ctx services resolution)
    (hgrows : a.Grows b) : b.Explains ctx services resolution := by
  obtain ⟨service, hchecked, htype, hlifetime, hrecipe, hmeets⟩ := h
  exact ⟨service, hchecked, htype, hlifetime, hrecipe,
    hmeets.imp fun _ _ hmeets => hmeets.grow hgrows⟩

/-! What is registered under a type that is looked up. -/

theorem IsEnumerable.isShape (h : c.IsEnumerable id) : c.IsShape id := by
  obtain ⟨element, family, hfamily, rfl⟩ := h
  exact ⟨element, family, hfamily, by simp [Family.ids]⟩

namespace Regular

theorem register_of_lt (h : c.Regular ctx services) (hid : id < services.length) :
    c.register[id]? = services[id]? := by
  obtain ⟨rest, hrest⟩ := h.heads
  rw [← hrest, List.getElem?_append_left hid]

theorem length_le (h : c.Regular ctx services) : services.length ≤ c.size := by
  rw [← length_register]
  exact h.heads.length_le

theorem collected_eq_none (h : c.Regular ctx services) {r : Registration}
    (hr : c.registration? id = some r) (hid : ¬ c.IsEnumerable id) : r.collected = none := by
  cases hcollected : r.collected with
  | none => rfl
  | some _ => exact absurd (h.collects id r hr (by rw [hcollected]; rfl)) hid

/-- The specialization is one that a request comes to. -/
theorem closing (h : c.Regular ctx services) (hclosed : .specialized id ∈ c.journal)
    (hid : c.register[id]? = some template) : Closing ctx services template := by
  obtain ⟨other, hplaced, hclosing, -⟩ := h.placed id hclosed
  obtain rfl := Option.some.inj (hid.symm.trans hplaced.registered)
  exact hclosing

/-- Neither a specialization nor a base of it is a shape. -/
theorem not_isShape_add (h : c.Regular ctx services) (hclosed : .specialized id ∈ c.journal)
    (hid : c.register[id]? = some template) {i : Nat}
    (hi : i ≤ (servedBases ctx template.type).length) : ¬ c.IsShape (id + i) := by
  obtain ⟨other, hplaced, -, hshapes⟩ := h.placed id hclosed
  obtain rfl := Option.some.inj (hid.symm.trans hplaced.registered)
  exact hshapes i hi

/-- What stands behind the declared services is what checks register. -/
theorem registers (h : c.Regular ctx services) (ha : c.Arises ctx services found id service)
    (hid : c.register[id]? = some service) : Registers ctx services service found := by
  cases ha with
  | closed hclosed => exact .closed (h.closing hclosed hid)
  | base hclosed htemplate hbase =>
    exact .base (h.closing hclosed htemplate) (List.mem_of_getElem? hbase)
  | redirect hasks htemplate hother _ _ _ _ _ _ => exact .redirect hasks htemplate hother
  | @shape _ _ element family hfamily hmem =>
    obtain ⟨target, hasks, hanswer⟩ := h.asked element family hfamily
    obtain ⟨element', hsame, hshapes⟩ := h.arranged.coherent.shaped element family hfamily
    obtain ⟨shape, hshape, hregister, -⟩ := hshapes.of_mem hmem
    obtain rfl := Option.some.inj (hid.symm.trans hregister)
    rw [← TypeExpr.same_iff.1 hsame] at hanswer ⊢
    exact .shape hasks hanswer hshape

theorem registers_of_le (h : c.Regular ctx services) (hle : services.length ≤ id)
    (hid : c.register[id]? = some service) : ∃ found, Registers ctx services service found := by
  obtain ⟨found, ha⟩ := h.arises id service hle hid
  exact ⟨found, h.registers ha hid⟩

/-- What is registered under a type that is looked up stands for the answer looked up. -/
theorem arises_of_looksUp (h : c.Regular ctx services) (ho : Orderly ctx services)
    (hl : LooksUp ctx services type found) (hle : services.length ≤ id)
    (hid : c.register[id]? = some service) (htype : service.type.same type) :
    c.Arises ctx services found id service := by
  obtain ⟨registered, ha⟩ := h.arises id service hle hid
  rw [TypeExpr.same_comm] at htype
  obtain rfl := ho.apart type found registered service hl (h.registers ha hid) htype
  exact ha

/-- Where the answer looked up is none that checks register anything for, nothing but what is
declared stands there. -/
theorem lt_of_looksUp (h : c.Regular ctx services) (ho : Orderly ctx services)
    (hl : LooksUp ctx services type found) (hnone : found.closedType? = none)
    (hcollection : ∀ element, found ≠ .collection element) (hid : c.register[id]? = some service)
    (htype : service.type.same type) : id < services.length := by
  by_contra hlt
  rcases (h.arises_of_looksUp ho hl (Nat.le_of_not_lt hlt) hid htype).answerFor_or_shape with
    ⟨template, rfl⟩ | ⟨element, family, -, -, rfl⟩
  · rw [closedType?_answerFor] at hnone
    cases hnone
  · exact hcollection _ rfl

theorem not_isShape (h : c.Regular ctx services) (hid : id < services.length) :
    ¬ c.IsShape id := by
  rintro ⟨element, family, hfamily, hmem⟩
  obtain ⟨_, -, hshapes⟩ := h.arranged.coherent.shaped element family hfamily
  obtain ⟨-, -, -, hle⟩ := hshapes.of_mem hmem
  exact absurd hid (Nat.not_lt_of_le (Nat.le_trans (h.behind element family hfamily) hle))

theorem not_isEnumerable (h : c.Regular ctx services) (hid : id < services.length) :
    ¬ c.IsEnumerable id :=
  fun henumerable => h.not_isShape hid henumerable.isShape

/-- What stands under a key, or under a type for which checks register nothing, is declared. -/
theorem lt_of_free (h : c.Regular ctx services)
    (hfree : key = none → ∀ id service, c.register[id]? = some service →
      service.type.same type → id < services.length)
    (hid : c.register[id]? = some service) (htype : service.type.same type)
    (hkey : service.key = key) : id < services.length := by
  by_contra hlt
  obtain ⟨found, hregisters⟩ := h.registers_of_le (Nat.le_of_not_lt hlt) hid
  exact hlt (hfree (hkey.symm.trans hregisters.key_eq_none) id service hid htype)

/-- Where nothing else is registered, what is found is what is declared. -/
theorem under_register (h : c.Regular ctx services)
    (hfree : key = none → ∀ id service, c.register[id]? = some service →
      service.type.same type → id < services.length) :
    under c.register key type = under services key type := by
  obtain ⟨rest, hrest⟩ := h.heads
  have hnone : under rest key type = [] := by
    refine List.filter_eq_nil_iff.2 fun service hservice => ?_
    obtain ⟨i, hi⟩ := List.getElem?_of_mem hservice
    have hle := Nat.le_add_right services.length i
    have hid : c.register[services.length + i]? = some service := by
      rw [← hrest, List.getElem?_append_right hle, Nat.add_sub_cancel_left, hi]
    simp only [Bool.and_eq_true, beq_iff_eq, not_and]
    exact fun htype hkey => absurd (h.lt_of_free hfree hid htype hkey) (Nat.not_lt_of_le hle)
  rw [← hrest]
  unfold under at hnone ⊢
  rw [List.filter_append, hnone, List.append_nil]

theorem forall₂_under (h : c.Regular ctx services)
    (hfree : key = none → ∀ id service, c.register[id]? = some service →
      service.type.same type → id < services.length) :
    List.Forall₂ (fun (id : RegistrationId) service => c.register[id]? = some service)
      (c.underKey key (c.servicesFor type)) (under services key type) := by
  rw [← h.under_register hfree]
  exact h.arranged.forall₂_under key type

/-- What is declared for a type is found there. -/
theorem mem_underKey_of_mem_under (h : c.Regular ctx services)
    (hmem : service ∈ under services key type) :
    ∃ id < services.length, services[id]? = some service ∧
      id ∈ c.underKey key (c.servicesFor type) := by
  obtain ⟨hdeclared, htype, hkey⟩ := mem_under.1 hmem
  obtain ⟨id, hid⟩ := List.getElem?_of_mem hdeclared
  have hlt : id < services.length := (List.getElem?_eq_some_iff.1 hid).1
  refine ⟨id, hlt, hid, (mem_underKey_servicesFor h.arranged.coherent.listed).2
    ⟨service, ?_, htype, hkey⟩⟩
  rw [h.register_of_lt hlt, hid]

end Regular

end Wiring.Container
