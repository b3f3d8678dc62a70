import Wiring.Proofs.Assembly.Issued
import Wiring.Proofs.Check.Course
import Wiring.Proofs.Graph.Dependency

/-!
How an orderly run ends, told from the declared services alone: it succeeds exactly if whatever it
checks can be constructed, the types to be specialized come to an end, and no types may wait in a
circle.
-/

namespace Wiring

namespace Container

open Forecast

variable {ctx : Context} {services : List Service} {c : Container} {id target : RegistrationId}
  {found : Answer} {service : Service} {a b : TypeExpr}

theorem Regular.supplies_self_iff (h : c.Regular ctx services)
    (hid : c.register[id]? = some service) (henumerable : ¬ c.IsEnumerable id) :
    c.Supplies id target ↔ target = id := by
  obtain ⟨r, hr, -⟩ := register_eq_some_iff.1 hid
  simp [Supplies, hr, h.collected_eq_none hr henumerable]

theorem Regular.supplies_elements_iff (h : c.Regular ctx services) {element : TypeExpr}
    {family : Family} (hfamily : c.families.get? element = some family) :
    c.Supplies family.enumerable target ↔ target ∈ c.elements family := by
  obtain ⟨r, ids, hr, hids⟩ := h.arranged.coherent.collect _ ⟨element, family, hfamily, rfl⟩
  simp [Supplies, elements, hr, hids]

/-- What a selected registration supplies has a role that was foretold. -/
theorem Regular.serves_of_supplies (h : c.Regular ctx services)
    (hfound : c.Found ctx services found id) (hsupplies : c.Supplies id target)
    (htarget : c.register[target]? = some service) : Serves ctx services found service.role := by
  have hserved (hid : ∃ service, c.register[id]? = some service ∧
      Serves ctx services found service.role ∧ ¬ c.IsEnumerable id) :
      Serves ctx services found service.role := by
    obtain ⟨served, hid, hserves, henumerable⟩ := hid
    obtain rfl := (h.supplies_self_iff hid henumerable).1 hsupplies
    obtain rfl := Option.some.inj (htarget.symm.trans hid)
    exact hserves
  cases found with
  | declared _ => exact hserved hfound
  | existing _ => exact hserved hfound
  | closed type recipe =>
    obtain ⟨other, hid, hyields, henumerable⟩ := h.yields_of_found rfl hfound
    exact hserved ⟨other, hid, .closed rfl hyields, henumerable⟩
  | collection element =>
    obtain ⟨family, hfamily, rfl⟩ := hfound
    have hmem := (h.supplies_elements_iff hfamily).1 hsupplies
    obtain ⟨other, hother, hserves⟩ := (h.gathers element family hfamily).serves target hmem
    obtain rfl := Option.some.inj (htarget.symm.trans hother)
    refine hserves.congr ?_
    rw [TypeExpr.same_comm]
    exact TypeExpr.same_unannotated element
  | undeclared => cases hfound
  | ambiguous => cases hfound

/-- What waits in a container may wait. -/
theorem Regular.mayWait (h : c.Regular ctx services) (hwaits : c.Waits a b) :
    MayWait ctx services a b := by
  obtain ⟨resolution, hresolution, hclosed, ha, p, hp, id, target, r, hid, hsupplies, hr,
    ⟨hnullable, hdefault, hmemoized⟩, hb⟩ := hwaits
  obtain ⟨consumer, hchecked, htype, hlifetime, hrecipe, hmeets⟩ :=
    h.explains resolution hresolution
  obtain ⟨parameter, hparameter, hmeets⟩ :
      ∃ parameter ∈ resolution.construction.parameters, c.Meets ctx services parameter p :=
    mem_of_forall₂ hmeets.flip hp
  have hrequired : isOptional ctx parameter = false := by
    obtain ⟨_, -, rfl⟩ := hmeets
    dsimp only at hnullable hdefault
    simp [isOptional, hnullable, hdefault]
  obtain ⟨hselects, hfound⟩ := hmeets.found_of_selected hrequired hid
  obtain ⟨_, -, rfl⟩ := hmeets
  rw [htype] at hclosed ha
  rw [hlifetime] at hmemoized
  refine ⟨consumer, parameter, r.toService.plain.role, hchecked, hclosed, ha, ?_, hrequired,
    hselects, h.serves_of_supplies hfound hsupplies (register_of_registration hr), hmemoized, ?_⟩
  · rw [parametersOf_eq hrecipe]
    exact hparameter
  · have hunannotated := TypeExpr.same_unannotated r.resolvedType
    rw [TypeExpr.same_comm] at hunannotated
    exact TypeExpr.same_trans hunannotated hb

/-- A specialization that a request comes to is there once everything has been checked, with another
lifetime perhaps. -/
theorem specialized_of_done
    (hdone : ∀ service, Checked ctx services service → c.Done ctx services service)
    {template : Service} (hclosing : Closing ctx services template) :
    ∃ id other, .specialized id ∈ c.journal ∧ c.register[id]? = some other ∧
      answerFor ctx services other = answerFor ctx services template := by
  obtain ⟨target, ⟨consumer, parameter, hchecked, hparameter, hkey, rfl⟩, htemplate⟩ :=
    hclosing.isTemplate
  exact (hdone consumer hchecked).specialized parameter template hparameter
    ⟨hkey, htemplate, hclosing.new⟩

/-- Where everything has been checked, something is supplied as was assured. -/
theorem Regular.supplies_of_assures (h : c.Regular ctx services)
    (hdone : ∀ service, Checked ctx services service → c.Done ctx services service)
    {P : Role → Prop} (hassures : Assures ctx services P found)
    (hfound : c.Found ctx services found id) :
    ∃ target service, c.Supplies id target ∧ c.register[target]? = some service ∧
      P service.role := by
  cases hassures with
  | declared hall =>
    obtain ⟨service, hid, hserves, henumerable⟩ := hfound
    refine ⟨id, service, (h.supplies_self_iff hid henumerable).2 rfl, hid, ?_⟩
    cases hserves with
    | declared hleads => exact hall _ hleads
    | closed hclosed _ => cases hclosed
  | closed hclosed hall =>
    obtain ⟨service, hid, hyields, henumerable⟩ := h.yields_of_found hclosed hfound
    exact ⟨id, service, (h.supplies_self_iff hid henumerable).2 rfl, hid, hall _ hyields⟩
  | @member element _ hmember hall =>
    obtain ⟨family, hfamily, rfl⟩ := hfound
    obtain ⟨target, htarget, service, hservice, hleads⟩ :=
      (h.gathers element family hfamily).members _ hmember
    exact ⟨target, service, (h.supplies_elements_iff hfamily).2 htarget, hservice, hall _ hleads⟩
  | @joined element template hclosing hall =>
    obtain ⟨family, hfamily, rfl⟩ := hfound
    obtain ⟨target, other, hspecialized, hother, hanswer⟩ := specialized_of_done hdone hclosing
    obtain ⟨hjoins, hrole⟩ := hall other (h.closing hspecialized hother) hanswer
    have hmem := (h.gathers element family hfamily).joined target other hspecialized hother hjoins
    exact ⟨target, other, (h.supplies_elements_iff hfamily).2 hmem, hother, hrole⟩

/-- Where everything has been checked, what waits in every order waits. -/
theorem Regular.waits_of_done (h : c.Regular ctx services)
    (hdone : ∀ service, Checked ctx services service → c.Done ctx services service)
    (hwaits : MustWait ctx services a b) : c.Waits a b := by
  obtain ⟨⟨consumer, parameters, hchecked, hclosed, ha, hrecipe⟩, hall⟩ := hwaits
  obtain ⟨resolution, hresolution⟩ := Option.isSome_iff_exists.1
    ((hdone consumer hchecked).resolved parameters hrecipe)
  obtain ⟨hmem, hsame⟩ := h.indexed.resolution?_eq_some_iff.1 hresolution
  -- the service of the type that was checked last may be another one
  obtain ⟨last, hlast, htype, hlifetime, hrecipe', hmeets⟩ := h.explains resolution hmem
  have ha' := TypeExpr.same_trans hsame ha
  rw [htype] at ha'
  obtain ⟨parameter, hparameter, hrequired, hselects, hassures⟩ :=
    hall last resolution.construction.parameters hlast ha' hrecipe'
  obtain ⟨p, hp, hmeets⟩ := mem_of_forall₂ hmeets hparameter
  obtain ⟨id, hid, hfound⟩ := hmeets.selected_of_selects hselects (Or.inl hrequired)
  obtain ⟨target, service, hsupplies, hregister, hawaits, hb⟩ :=
    h.supplies_of_assures hdone hassures hfound
  obtain ⟨r, hr, rfl⟩ := register_eq_some_iff.1 hregister
  obtain ⟨_, -, rfl⟩ := hmeets
  simp only [isOptional, Bool.or_eq_false_iff, Option.isSome_eq_false_iff,
    Option.isNone_iff_eq_none] at hrequired
  refine ⟨resolution, hmem, ?_, ?_, _, hp, id, target, r, hid, hsupplies, hr,
    ⟨hrequired.1, hrequired.2, fun hdeferred => ?_⟩, ?_⟩
  · rwa [TypeExpr.isClosed_congr hsame]
  · exact TypeExpr.same_trans hsame ha
  · rw [hlifetime]
    exact hawaits hdeferred
  · exact TypeExpr.same_trans (TypeExpr.same_unannotated r.resolvedType) hb

/-- Where everything has been checked, no more types are specialized than are registered. -/
theorem bounded_of_done
    (hdone : ∀ service, Checked ctx services service → c.Done ctx services service) :
    Bounded ctx services := by
  refine ⟨c.register.length, fun chain hdistinct => ?_⟩
  let bare (service : Service) : TypeExpr := service.type.unannotated
  have hnodup : (chain.map bare).Nodup := List.pairwise_map.2 <|
    hdistinct.apart.imp fun hapart heq => hapart (TypeExpr.same_iff.2 heq)
  have hsub : chain.map bare ⊆ c.register.map bare := by
    intro type htype
    obtain ⟨template, htemplate, rfl⟩ := List.mem_map.1 htype
    obtain ⟨id, other, -, hother, hanswer⟩ :=
      specialized_of_done hdone (hdistinct.closing template htemplate)
    exact List.mem_map.2
      ⟨other, List.mem_of_getElem? hother, TypeExpr.same_iff.1 (same_of_answerFor_eq hanswer)⟩
  simpa using (List.subperm_of_subset hnodup hsub).length_le

/-- Before anything is checked, nothing is there but what is declared. -/
theorem declared_regular (hcollected : ∀ service ∈ services, service.collected = none) :
    (declared ctx services).Regular ctx services := by
  have hreachable := declared_reachable ctx services
  have hservices : (declared ctx services).registrations.map (·.toService) = services :=
    addAll_services .empty services
  have hregister : (declared ctx services).register = services := by
    calc (declared ctx services).register
        = ((declared ctx services).registrations.map (·.toService)).map Service.plain := by
          rw [List.map_map]
          rfl
      _ = services.map Service.plain := by rw [hservices]
      _ = services := by
          refine (List.map_congr_left fun service hmem => ?_).trans (List.map_id services)
          change { service with collected := none } = service
          rw [← hcollected service hmem]
  have hfamilies : (declared ctx services).families = [] :=
    addAll_view (·.families) (fun _ _ => rfl) _ _
  have hjournal : (declared ctx services).journal = [] :=
    addAll_view (·.journal) (fun _ _ => rfl) _ _
  have hresolutions : (declared ctx services).resolutions = [] :=
    addAll_view (·.resolutions) (fun _ _ => rfl) _ _
  have hfamily (element : TypeExpr) : (declared ctx services).families.get? element = none := by
    rw [hfamilies]
    rfl
  refine ⟨hreachable.arranged, hreachable.indexed, ?_, ?_, ?_, ?_, ?_, ?_, ?_, ?_⟩
  · exact ⟨[], by rw [List.append_nil, hregister]⟩
  · intro id r hr hsome
    have hmem : r.toService ∈ services := by
      rw [← hservices]
      exact List.mem_map_of_mem (List.mem_of_getElem? hr)
    rw [hcollected _ hmem] at hsome
    cases hsome
  · intro closed hclosed
    rw [hjournal] at hclosed
    cases hclosed
  · intro id service hle hid
    rw [hregister, List.getElem?_eq_none hle] at hid
    cases hid
  · intro element family hsome
    rw [hfamily] at hsome
    cases hsome
  · intro element family hsome
    rw [hfamily] at hsome
    cases hsome
  · intro element family hsome
    rw [hfamily] at hsome
    cases hsome
  · intro resolution hmem
    rw [hresolutions] at hmem
    cases hmem

/-- The checks of an orderly run pass if whatever is checked can be constructed, and the types to be
specialized come to an end. -/
theorem checkAll_advances (ho : Orderly ctx services)
    (hcollected : ∀ service ∈ services, service.collected = none) :
    Advances ctx services (Bounded ctx services) (declared ctx services)
      (fun c _ => ∀ id ∈ List.range services.length, ∀ service, services[id]? = some service →
        service.isClosed → c.Done ctx services service)
      ((declared ctx services).checkAll ctx) := by
  unfold checkAll
  rw [declared_size]
  exact checkEach_advances (declared_regular hcollected) ho
    (addAll_view (·.specializationDepth) (fun _ _ => rfl) _ _) fun id hid => List.mem_range.1 hid

/-- After checks that passed everything is checked. -/
theorem done_of_checkAll (ho : Orderly ctx services)
    (hcollected : ∀ service ∈ services, service.collected = none)
    (h : (declared ctx services).checkAll ctx = (c, .ok ()))
    (hchecked : Checked ctx services service) :
    c.Done ctx services service := by
  have hs := checkAll_advances ho hcollected
  rw [h] at hs
  induction hchecked with
  | declared hmem hclosed =>
    obtain ⟨id, hid⟩ := List.getElem?_of_mem hmem
    have hlt := (List.getElem?_eq_some_iff.1 hid).1
    exact hs.result () rfl id (List.mem_range.2 hlt) _ hid hclosed
  | @closed outer template parameter houter hparameter hcloses ih =>
    obtain ⟨id, other, hid, hother, hanswer⟩ := ih.specialized parameter template hparameter hcloses
    have hclosing := hcloses.closing houter hparameter
    have hclosing' := hs.regular.closing hid hother
    have hdone : c.Done ctx services other := by
      refine (hs.done rfl id other hid hother).resolve_left fun hold => ?_
      rw [declared, addAll_view (·.journal) fun _ _ => rfl] at hold
      cases hold
    refine hdone.congr ?_ ?_
    · rw [hclosing'.resolvedType, hclosing.resolvedType]
      exact same_of_answerFor_eq hanswer
    · rw [answerFor_of_new ctx hclosing'.new, answerFor_of_new ctx hclosing.new] at hanswer
      injection hanswer

/-- The checks of an orderly run pass and leave no cycle exactly if everything that is checked can
be constructed, the types to be specialized come to an end, and no types may wait in a circle. -/
theorem checkAll_ok_iff (ho : Orderly ctx services)
    (hcollected : ∀ service ∈ services, service.collected = none) :
    (∃ c, (declared ctx services).checkAll ctx = (c, .ok ()) ∧ c.validate = .ok ()) ↔
      (∀ service, Checked ctx services service → Sound ctx services service) ∧
        Bounded ctx services ∧
        ¬ ∃ type, Relation.TransGen (MayWait ctx services) type type := by
  have hs := checkAll_advances ho hcollected
  have hvalidate {c : Container} (hc : (declared ctx services).checkAll ctx = (c, .ok ())) :
      c.validate = .ok () ↔ ∀ type, ¬ Relation.TransGen c.Waits type type :=
    (validate_ok_iff (reachable_of_checkAll hc) (idsIssued_of_uncollected hcollected hc)).2
  constructor
  · rintro ⟨c, hc, hvalid⟩
    have hdone (service : Service) (hchecked : Checked ctx services service) :=
      done_of_checkAll ho hcollected hc hchecked
    refine ⟨fun service hchecked => (hdone service hchecked).sound, bounded_of_done hdone, ?_⟩
    intro hcircle
    obtain ⟨type, hmust⟩ := ho.circles hcircle
    have hregular := hs.regular
    rw [hc] at hregular
    exact (hvalidate hc).1 hvalid type
      (Relation.TransGen.mono (fun _ _ => hregular.waits_of_done hdone) _ _ hmust)
  · rintro ⟨hsound, hbounded, hacyclic⟩
    have hpasses := hs.passes hsound hbounded
    have hregular := hs.regular
    rcases hc : (declared ctx services).checkAll ctx with ⟨c, _ | _⟩
    · rw [hc] at hpasses
      cases hpasses
    · rw [hc] at hregular
      refine ⟨c, rfl, (hvalidate hc).2 fun type hcircle => hacyclic ⟨type, ?_⟩⟩
      exact Relation.TransGen.mono (fun _ _ => hregular.mayWait) _ _ hcircle

end Container

open Container Forecast

variable {ctx : Context} {provider : TypeExpr} {services : List Service}

theorem assemble_ok_iff_checkAll
    (hservices : ctx.program.declaredServices provider = .ok services) :
    (assemble ctx provider).result = .ok () ↔
      ∃ c, (declared ctx services).checkAll ctx = (c, .ok ()) ∧ c.validate = .ok () := by
  unfold assemble declared
  rw [hservices]
  dsimp only
  rcases (Container.empty.addAll ctx services).checkAll ctx with ⟨c, _ | _⟩ <;> simp

/-- An orderly run succeeds exactly if everything that it checks can be constructed, the types to be
specialized come to an end, and no types may wait in a circle. -/
theorem assemble_ok_iff (hservices : ctx.program.declaredServices provider = .ok services)
    (ho : Orderly ctx services) :
    (assemble ctx provider).result = .ok () ↔
      (∀ service, Checked ctx services service → Sound ctx services service) ∧
        Bounded ctx services ∧
        ¬ ∃ type, Relation.TransGen (MayWait ctx services) type type := by
  rw [assemble_ok_iff_checkAll hservices]
  exact checkAll_ok_iff ho (Program.declaredServices_collected hservices)

end Wiring
