import Wiring.Proofs.Check.Outcome

/-!
Why a registration was selected, as the container tells afterwards. A request is answered by a
registration of the very type, or by what that one leads to; by the collection of an element type;
or by a registration of the type to which an open registration is closed for the request. The
reasons only speak of what is registered, so they outlast every later check, and every parameter of
every stored resolution has one.
-/

namespace Wiring.Container

/-- A request served by the first registration may be served by the second. -/
inductive Follows (c : Container) : RegistrationId → RegistrationId → Prop
  | itself {id : RegistrationId} {service : Service} :
      c.register[id]? = some service → Follows c id id
  | shape {id : RegistrationId} {element : TypeExpr} {family : Family} :
      c.families.get? element = some family → id ∈ family.ids → Follows c id family.enumerable
  | implementation {id next : RegistrationId} {service concrete : Service}
      {implementation : TypeExpr} :
      c.register[id]? = some service → ¬ c.IsShape id →
      service.implementation = some implementation →
      c.register[next]? = some concrete → concrete.type.same implementation →
      concrete.key = service.key → Follows c id next

/-- What is open of a request for `target` is registered: `source`, or a registration that leads
to it, is registered for the definition of `target`. -/
structure Closes (ctx : Context) (c : Container) (target : TypeExpr) (source : Service) : Prop where
  noCollection : ctx.settings.collectionElement? target = none
  generic : target.isGeneric
  arity : source.resolvedType.args.length = target.args.length
  opened : ∃ definition first opened next, ctx.program.genericDefinition target = some definition ∧
    c.register[first]? = some opened ∧ opened.type.same definition ∧ opened.key = none ∧
    c.Follows first next ∧ c.register[next]? = some source

/-- A request for `target` may select the registration. -/
inductive Answers (ctx : Context) (c : Container) (target : TypeExpr) : RegistrationId → Prop
  | registered {first id : RegistrationId} {service : Service} :
      c.register[first]? = some service → service.type.same target → c.Follows first id →
      Answers ctx c target id
  | collection {element : TypeExpr} {family : Family} :
      ctx.settings.collectionElement? target = some element →
      c.families.get? element = some family → Answers ctx c target family.enumerable
  | closed {source service : Service} {id : RegistrationId} :
      c.Closes ctx target source → c.register[id]? = some service →
      service.type.same (source.resolvedType.construct target.args) → Answers ctx c target id

/-- Every parameter of a stored resolution selected what answers its request. -/
def Answered (ctx : Context) (c : Container) : Prop :=
  ∀ resolution ∈ c.resolutions, ∀ p ∈ resolution.parameters, ∀ id,
    p.outcome.selected? = some id → c.Answers ctx (targetOf ctx p.type) id

variable {ctx : Context} {a b c : Container}

theorem Follows.grow {id next : RegistrationId} (h : a.Follows id next) (hgrows : a.Grows b) :
    b.Follows id next := by
  cases h with
  | itself hid => exact .itself (hgrows.register_eq_some hid)
  | shape hfamily hid => exact .shape (hgrows.families _ _ hfamily) hid
  | implementation hid hshape himplementation hnext htype hkey =>
    exact .implementation (hgrows.register_eq_some hid)
      (fun h => hshape (hgrows.isShape_of_lt (lt_of_register hid) h)) himplementation
      (hgrows.register_eq_some hnext) htype hkey

theorem Closes.grow {target : TypeExpr} {source : Service} (h : a.Closes ctx target source)
    (hgrows : a.Grows b) : b.Closes ctx target source := by
  obtain ⟨definition, first, opened, next, hdefinition, hfirst, htype, hkey, hfollows, hnext⟩ :=
    h.opened
  exact ⟨h.noCollection, h.generic, h.arity, definition, first, opened, next, hdefinition,
    hgrows.register_eq_some hfirst, htype, hkey, hfollows.grow hgrows,
    hgrows.register_eq_some hnext⟩

theorem Answers.grow {target : TypeExpr} {id : RegistrationId} (h : a.Answers ctx target id)
    (hgrows : a.Grows b) : b.Answers ctx target id := by
  cases h with
  | registered hfirst htype hfollows =>
    exact .registered (hgrows.register_eq_some hfirst) htype (hfollows.grow hgrows)
  | collection helement hfamily => exact .collection helement (hgrows.families _ _ hfamily)
  | closed hcloses hid htype =>
    exact .closed (hcloses.grow hgrows) (hgrows.register_eq_some hid) htype

theorem mem_underKey {key : Option String} {ids : List RegistrationId} {id : RegistrationId} :
    id ∈ c.underKey key ids ↔ id ∈ ids ∧ ∃ service, c.register[id]? = some service ∧
      service.key = key := by
  rw [underKey, List.mem_filter, register_getElem?]
  refine and_congr_right fun _ => ?_
  cases c.registration? id with
  | none => simp
  | some r => simp [Service.plain]

theorem mem_underKey_servicesFor (h : c.Listed) {key : Option String} {type : TypeExpr}
    {id : RegistrationId} :
    id ∈ c.underKey key (c.servicesFor type) ↔ ∃ service, c.register[id]? = some service ∧
      service.type.same type ∧ service.key = key := by
  rw [mem_underKey, h]
  constructor
  · rintro ⟨⟨service, hid, htype⟩, service', hid', hkey⟩
    obtain rfl := Option.some.inj (hid.symm.trans hid')
    exact ⟨service, hid, htype, hkey⟩
  · rintro ⟨service, hid, htype, hkey⟩
    exact ⟨⟨service, hid, htype⟩, service, hid, hkey⟩

theorem familyOf?_eq_some {id : RegistrationId} {family : Family}
    (h : c.familyOf? ctx id = some family) :
    ∃ element, c.families.get? element = some family ∧ id ∈ family.ids := by
  unfold familyOf? at h
  simp only [Option.bind_eq_bind, Option.bind_eq_some_iff] at h
  obtain ⟨r, -, element, -, family', hfamily, hcontains⟩ := h
  split at hcontains
  · next hmem =>
    obtain rfl := Option.some.inj hcontains
    exact ⟨element, hfamily, by simpa using hmem⟩
  · cases hcontains

/-- A shape is led to the enumerable of its collection. -/
theorem Coherent.familyOf?_eq (hc : c.Coherent ctx) {element : TypeExpr} {family : Family}
    (hfamily : c.families.get? element = some family) {id : RegistrationId}
    (hid : id ∈ family.ids) : c.familyOf? ctx id = some family := by
  obtain ⟨element', hsame, hshapes⟩ := hc.shaped element family hfamily
  obtain ⟨shape, hshape, hregister, -⟩ := hshapes.of_mem hid
  obtain ⟨r, hr, rfl⟩ := register_eq_some_iff.1 hregister
  have helement := collectionElement?_of_mem_shapesOf hshape
  change ctx.settings.collectionElement? r.type = some element' at helement
  rw [← TypeMap.get?_congr c.families hsame] at hfamily
  simp [familyOf?, hr, helement, hfamily, hid]

theorem follows_follow (hc : c.Coherent ctx) {id : RegistrationId} {service : Service}
    (hid : c.register[id]? = some service) : c.Follows id (c.follow ctx id) := by
  obtain ⟨r, hr, rfl⟩ := register_eq_some_iff.1 hid
  unfold follow
  split
  · next family hfamily =>
    obtain ⟨element, hfamily, hmem⟩ := familyOf?_eq_some hfamily
    exact .shape hfamily hmem
  next hnone =>
  have hshape : ¬ c.IsShape id := by
    rintro ⟨element, family, hfamily, hmem⟩
    rw [hc.familyOf?_eq hfamily hmem] at hnone
    cases hnone
  rw [hr]
  dsimp only
  split
  · exact .itself hid
  next implementation himplementation =>
  split
  · exact .itself hid
  split
  · next concrete hconcrete =>
    obtain ⟨service', hnext, htype, hkey⟩ := (mem_underKey_servicesFor hc.listed).1
      (by rw [hconcrete]; exact List.mem_singleton_self concrete)
    exact .implementation hid hshape himplementation hnext htype hkey
  · exact .itself hid

theorem Opens.closes (hc : c.Coherent ctx) {target : TypeExpr} {source : Registration}
    (h : c.Opens ctx target source) : c.Closes ctx target source.toService.plain := by
  obtain ⟨definition, id, hdefinition, hunder, hsource⟩ := h.opened
  obtain ⟨opened, hid, htype, hkey⟩ := (mem_underKey_servicesFor hc.listed).1
    (by rw [hunder]; exact List.mem_singleton_self id)
  exact ⟨h.noCollection, h.generic, h.arity, definition, id, opened, _, hdefinition, hid, htype,
    hkey, follows_follow hc hid, register_of_registration hsource⟩

/-- The enumerable of a family is registered. -/
theorem Coherent.enumerable_lt (h : c.Coherent ctx) {element : TypeExpr} {family : Family}
    (hfamily : c.families.get? element = some family) : family.enumerable < c.size :=
  h.lt_of_isShape ⟨element, family, hfamily, by simp [Family.ids]⟩

theorem Follows.lt (hc : c.Coherent ctx) {id next : RegistrationId} (h : c.Follows id next) :
    next < c.size := by
  cases h with
  | itself hid => exact lt_of_register hid
  | shape hfamily _ => exact hc.enumerable_lt hfamily
  | implementation _ _ _ hnext _ _ => exact lt_of_register hnext

theorem Coherent.follow_lt (hc : c.Coherent ctx) {id : RegistrationId} (hid : id < c.size) :
    c.follow ctx id < c.size := by
  obtain ⟨r, hr⟩ := registration?_isSome hid
  exact (follows_follow hc (register_of_registration hr)).lt hc

theorem Answers.lt (hc : c.Coherent ctx) {target : TypeExpr} {id : RegistrationId}
    (h : c.Answers ctx target id) : id < c.size := by
  cases h with
  | registered _ _ hfollows => exact hfollows.lt hc
  | collection _ hfamily => exact hc.enumerable_lt hfamily
  | closed _ hid _ => exact lt_of_register hid

theorem selectAmong_answers (hc : c.Coherent ctx) {key : Option String} {target : TypeExpr}
    {requireNonEmpty : Bool} {id : RegistrationId}
    (h : c.selectAmong ctx key requireNonEmpty (c.servicesFor target) = .selected id) :
    c.Answers ctx target id := by
  unfold selectAmong at h
  split at h
  · cases h
  · next first hfirst =>
    dsimp only at h
    split at h
    · cases h
    · obtain ⟨service, hservice, htype, -⟩ := (mem_underKey_servicesFor hc.listed).1
        (by rw [hfirst]; exact List.mem_singleton_self first)
      cases h
      exact .registered hservice htype (follows_follow hc hservice)
  · cases h

theorem selectCollection_answers {target element : TypeExpr} {requireNonEmpty : Bool}
    {id : RegistrationId} (helement : ctx.settings.collectionElement? target = some element)
    (h : c.selectCollection ctx element requireNonEmpty = (b, .selected id)) :
    b.Answers ctx target id := by
  unfold selectCollection at h
  split at h
  · next family hfamily =>
    split at h
    · cases h
    · cases h
      exact .collection helement hfamily
  · dsimp only at h
    split at h
    · cases h
    · cases h
      exact .collection helement (families_addFamily_self c ctx element _)

section Nested

variable {levels : Nat}

/-- The specialization stands where it was registered, whatever its check goes on to add. -/
theorem answers_checkNested (hcollect : c.EnumerablesCollect) {target : TypeExpr}
    {source : Registration} (hcloses : c.Closes ctx target source.toService.plain) (n : Nat) :
    (checkNested (checkWithin ctx n) (c.addSpecialization ctx (closedOver target source))
      c.size).1.Answers ctx target c.size := by
  rw [checkNested_entered]
  obtain ⟨hentered, hgrows⟩ := extends_entered c ctx target source hcollect
  obtain ⟨hchecked, hnested⟩ :=
    (kept_extends ctx).checkWithin n (c.entered ctx target source) c.size hentered
  have hlater := hnested.trans (extends_left _ hchecked).2
  have hself := register_addSpecialization_self c ctx (closedOver target source)
  exact .closed (hcloses.grow (hgrows.trans hlater)) (hlater.register_eq_some hself)
    (TypeExpr.same_refl _)

theorem specializeFrom_answers (hc : c.Coherent ctx) {target : TypeExpr} {source : Registration}
    (hopens : source.resolvedType.args.length = target.args.length → c.Opens ctx target source)
    {id : RegistrationId}
    (h : specializeFrom ctx (inner ctx levels) c target source = (b, .ok (.selected id))) :
    b.Answers ctx target id := by
  unfold specializeFrom at h
  dsimp only at h
  split at h
  · cases h
  next harity =>
  have hopens := hopens (Decidable.not_not.1 harity)
  have hcloses := hopens.closes hc
  split at h
  · next existing rest hexisting =>
    obtain ⟨service, hservice, htype, -⟩ := (mem_underKey_servicesFor hc.listed).1
      (by rw [hexisting]; exact List.mem_cons_self)
    split at h
    · cases h
      exact .closed hcloses hservice htype
    · cases h
      have hgrows := grows_add c ctx (aliasOf target (closedType target source) source)
      exact .closed (hcloses.grow hgrows) (hgrows.register_eq_some hservice) htype
  next hnew =>
  split at h
  · cases h
  next check hcheck =>
  split at hcheck
  · obtain ⟨n, rfl, rfl⟩ := inner_eq_some hcheck
    have hnested := answers_checkNested hc.collect hcloses n
    split at h
    · next hs =>
      cases h
      rwa [hs] at hnested
    · cases h
  · cases hcheck

theorem specialize_answers (hc : c.Coherent ctx) {target : TypeExpr}
    (hfree : c.servicesFor target = [])
    (hcollection : ctx.settings.collectionElement? target = none) (hgeneric : target.isGeneric)
    {id : RegistrationId}
    (h : specialize ctx (inner ctx levels) c target = (b, .ok (.selected id))) :
    b.Answers ctx target id := by
  unfold specialize at h
  split at h
  · cases h
  next definition hdefinition =>
  split at h
  · cases h
  · next opened hopened =>
    dsimp only at h
    split at h
    · next source hsource =>
      exact specializeFrom_answers hc (fun harity => ⟨hfree, hcollection, hgeneric,
        ⟨definition, opened, hdefinition, hopened, hsource⟩, harity⟩) h
    · cases h
  · cases h

/-- Whatever a request selects answers it. -/
theorem resolveTarget_answers (hc : c.Coherent ctx) {key : Option String} {target : TypeExpr}
    {requireNonEmpty : Bool} {id : RegistrationId}
    (h : resolveTarget ctx (inner ctx levels) c key target requireNonEmpty =
      (b, .ok (.selected id))) : b.Answers ctx target id := by
  unfold resolveTarget at h
  split at h
  · next hfree =>
    split at h
    · cases h
    split at h
    · next element helement =>
      obtain ⟨hb, houtcome⟩ := Prod.mk.inj h
      exact selectCollection_answers helement (Prod.ext hb (Except.ok.inj houtcome))
    · next hcollection =>
      split at h
      · next hgeneric => exact specialize_answers hc hfree hcollection hgeneric h
      · cases h
  · obtain ⟨rfl, houtcome⟩ := Prod.mk.inj h
    exact selectAmong_answers hc (Except.ok.inj houtcome)

end Nested

theorem justifies_answers (ctx : Context) : Justifies ctx fun c _ target outcome =>
    ∀ id, outcome.selected? = some id → c.Answers ctx target id where
  grow h hgrows id hid := (h id hid).grow hgrows
  request hc hs id hid := by
    obtain rfl := Outcome.selected?_eq_some_iff.1 hid
    exact resolveTarget_answers hc hs
  fallback _ id hid := by cases hid

/-- Every parameter of every resolution selected what answers its request. -/
theorem Reachable.answered (hc : Reachable ctx c) : c.Answered ctx :=
  (justifies_answers ctx).reachable hc

end Wiring.Container
