import Wiring.Proofs.Check.Advance

/-!
The course of the checks of an orderly run. Every check comes to what the declared services tell,
whatever was checked before it; so it passes if every service that is checked can be constructed
from what its parameters come to.
-/

namespace Wiring.Container

open Forecast

variable {ctx : Context} {services : List Service} {a b c : Container} {id : RegistrationId}
  {levels : Nat} {found : Answer} {service template : Service} {parameter : Parameter}
  {target element : TypeExpr} {room : Prop}

/-- Whether a collection that has to have a member has one is told by what is declared. -/
theorem Gathers.isEmpty_eq {ids : List RegistrationId} (h : c.Gathers ctx services element ids)
    (ho : Orderly ctx services) (hneeds : Needs ctx services parameter)
    (hnonEmpty : parameter.requiresNonEmpty)
    (hanswer : answerTo ctx services parameter = .collection element.unannotated) :
    ids.isEmpty = (membersOf services element.unannotated).isEmpty := by
  rw [← membersOf_congr (TypeExpr.same_unannotated element)]
  match hmembers : membersOf services element with
  | member :: _ =>
    obtain ⟨id, hid, -⟩ := h.members member (by simp [hmembers])
    exact List.isEmpty_eq_false_iff.2 (List.ne_nil_of_mem hid)
  | [] =>
    rw [membersOf_congr (TypeExpr.same_unannotated element)] at hmembers
    refine List.isEmpty_iff.2 (List.eq_nil_iff_forall_not_mem.2 fun id hid => ?_)
    obtain ⟨service, -, hserves⟩ := h.serves id hid
    cases hserves with
    | closed hclosed _ => cases hclosed
    | member hmember _ =>
      rw [hmembers] at hmember
      cases hmember
    | joined hregisters hsame hyields =>
      rw [TypeExpr.same_comm] at hsame
      have hl : LooksUp ctx services element.unannotated .undeclared :=
        .element hneeds hnonEmpty hanswer hmembers
      exact hyields.ne_undeclared (ho.apart _ _ _ _ hl hregisters hsame).symm

/-- A collection that gathers what was foretold is refused or selected as foretold. -/
theorem Gathers.obtains {ids : List RegistrationId} (h : c.Gathers ctx services element ids)
    (ho : Orderly ctx services)
    (hneeds : isOptional ctx parameter = false → Needs ctx services parameter)
    (hanswer : answerTo ctx services parameter = .collection element.unannotated)
    {outcome : Outcome}
    (houtcome : if parameter.requiresNonEmpty && ids.isEmpty then outcome = .undeclared
      else ∃ family, b.families.get? element = some family ∧
        outcome = .selected family.enumerable) :
    b.Obtains ctx services parameter outcome := by
  cases hoptional : isOptional ctx parameter with
  | true => exact .optional hoptional fun type recipe => by simp [hanswer]
  | false =>
  have hempty : (parameter.requiresNonEmpty && ids.isEmpty) =
      (parameter.requiresNonEmpty && (membersOf services element.unannotated).isEmpty) := by
    cases hnonEmpty : parameter.requiresNonEmpty with
    | false => rfl
    | true => rw [h.isEmpty_eq ho (hneeds hoptional) hnonEmpty hanswer]
  have hselects : selects ctx services parameter =
      !(parameter.requiresNonEmpty && (membersOf services element.unannotated).isEmpty) := by
    rw [selects, hanswer]
  rw [hempty] at houtcome
  split at houtcome
  · next hrefused =>
    subst houtcome
    exact .undeclared (by rw [hselects, hrefused]; rfl) (by rw [hanswer]; simp)
  · next htaken =>
    obtain ⟨family, hfamily, rfl⟩ := houtcome
    refine .selected (by rw [hselects, Bool.eq_false_of_not_eq_true htaken]; rfl) ?_
    rw [hanswer]
    refine ⟨family, ?_, rfl⟩
    rwa [← TypeMap.get?_congr b.families (TypeExpr.same_unannotated element)]

theorem Regular.elements_isEmpty (h : c.Regular ctx services) {family : Family}
    (hfamily : c.families.get? element = some family) :
    c.isEmptyCollection family.enumerable = (c.elements family).isEmpty := by
  obtain ⟨r, ids, hr, hids⟩ := h.arranged.coherent.collect _ ⟨element, family, hfamily, rfl⟩
  have helements : c.elements family = ids := by simp [elements, hr, hids]
  rw [helements, isEmptyCollection, hr]
  change (r.collected == some []) = _
  rw [hids]
  cases ids <;> rfl

/-- The collection that a family stands for is refused or selected as foretold. -/
theorem Regular.obtains_answerOf (h : c.Regular ctx services) (ho : Orderly ctx services)
    (hneeds : isOptional ctx parameter = false → Needs ctx services parameter)
    (hanswer : answerTo ctx services parameter = .collection element.unannotated)
    {family : Family} (hfamily : c.families.get? element = some family) :
    c.Obtains ctx services parameter (c.answerOf family parameter.requiresNonEmpty) := by
  refine (h.gathers element family hfamily).obtains ho hneeds hanswer ?_
  unfold answerOf
  rw [h.elements_isEmpty hfamily]
  split
  · rfl
  · exact ⟨family, hfamily, rfl⟩

/-- A request for a collection makes it at most. -/
theorem collection_advances (h : c.Regular ctx services) (ho : Orderly ctx services)
    (hneeds : isOptional ctx parameter = false → Needs ctx services parameter)
    (hkey : parameter.key = none) (hasks : Asks ctx services (requested ctx parameter))
    (hanswer : answerTo ctx services parameter = .collection element.unannotated) :
    Advances ctx services room c (fun after => after.Obtains ctx services parameter)
      ((c.selectCollection ctx element parameter.requiresNonEmpty).1,
        .ok (c.selectCollection ctx element parameter.requiresNonEmpty).2) := by
  cases hfamily : c.families.get? element with
  | some family =>
    rw [selectCollection_of_family hfamily]
    exact advances_refl h (h.obtains_answerOf ho hneeds hanswer hfamily)
  | none =>
    have hgathers := h.gathers_members ho element
    unfold selectCollection
    rw [hfamily]
    dsimp only
    split
    · next hrefused =>
      refine advances_refl h (hgathers.obtains ho hneeds hanswer ?_)
      rw [if_pos hrefused]
    · next htaken =>
      rw [answerTo, hkey] at hanswer
      refine advances_ok (h.family ho hasks hanswer hfamily) (grows_addFamily c ctx _ hfamily) rfl
        (fun _ hid => hid) (hgathers.obtains ho hneeds (by rw [answerTo, hkey, hanswer]) ?_)
      rw [if_neg htaken]
      exact ⟨_, families_addFamily_self c ctx element _, rfl⟩

/-- The checks that may nest no more than `levels` specializations go on as they should. -/
def Proceeds (ctx : Context) (services : List Service) (levels : Nat) : Prop :=
  ∀ n < levels, ∀ (c : Container) (id : RegistrationId) (service : Service),
    c.Regular ctx services → c.register[id]? = some service → Checked ctx services service →
    Advances ctx services (c.Room ctx services n service) c
      (fun after _ => after.Done ctx services service) (checkWithin ctx n c id)

theorem left_grows (c : Container) : c.Grows c.left :=
  Grows.of_eq rfl rfl rfl rfl (List.prefix_refl _)

/-- The check of a new specialization leaves it registered. -/
theorem nested_advances (h : c.Regular ctx services) {levels n : Nat}
    (hproceeds : Proceeds ctx services levels) (hn : n < levels) {source : Registration}
    (hopens : c.Opens ctx target source)
    (hnew : c.underKey source.key (c.servicesFor (closedType target source)) = [])
    (hclosing : Closing ctx services (closedOver target source))
    (hroom : room → (c.entered ctx target source).Room ctx services n (closedOver target source)) :
    Advances ctx services room c
      (fun after _ => after.Found ctx services (answerFor ctx services (closedOver target source))
        c.size)
      ((checkWithin ctx n (c.entered ctx target source) c.size).1.left,
        (checkWithin ctx n (c.entered ctx target source) c.size).2) := by
  have hentered : (c.entered ctx target source).Regular ctx services :=
    (h.specialize hopens hnew hclosing).nest _
  have hgrows := (extends_entered c ctx target source h.arranged.coherent.collect).2
  have hregister : (c.entered ctx target source).register[c.size]? =
      some (closedOver target source) :=
    register_addSpecialization_self c ctx (closedOver target source)
  have hspecialized : .specialized c.size ∈ (c.entered ctx target source).journal := by
    rw [entered_journal]
    exact List.mem_append_right _ (List.mem_singleton_self _)
  have hs := hproceeds n hn _ c.size _ hentered hregister hclosing.checked
  generalize checkWithin ctx n (c.entered ctx target source) c.size = s at hs ⊢
  have hleaves := left_grows s.1
  have hleft : s.1.left.Regular ctx services := hs.regular.nest _
  have hlater := hs.grows.trans hleaves
  refine ⟨hleft, hgrows.trans hlater, ?_, ?_, ?_, fun hsound hr => hs.passes hsound (hroom hr)⟩
  · change s.1.specializationDepth - 1 = c.specializationDepth
    rw [hs.depth, entered_specializationDepth, Nat.add_sub_cancel]
  · intro hpasses id template hid htemplate
    rcases hs.done hpasses id template hid htemplate with hold | hdone
    · rw [entered_journal] at hold
      rcases List.mem_append.1 hold with hold | hlast
      · exact Or.inl hold
      -- the new specialization is the one that the nested check has settled
      · cases List.mem_singleton.1 hlast
        obtain rfl := Option.some.inj (htemplate.symm.trans (hlater.register_eq_some hregister))
        refine Or.inr ((hs.result () ?_).grow hleaves)
        cases hresult : s.2 with
        | ok _ => rfl
        | error _ =>
          rw [Step.passes] at hpasses
          simp only [hresult] at hpasses
          cases hpasses
    · exact Or.inr (hdone.grow hleaves)
  · intro _ _
    have hanswer := answerFor_of_new ctx hclosing.new
    rw [hanswer]
    exact ⟨_, hlater.register_eq_some hregister, hanswer, hlater.journal.subset hspecialized⟩

/-- Closing an open service registers a specialization and checks it, if there is room for it. -/
theorem specializeFrom_closed_advances (h : c.Regular ctx services) (ho : Orderly ctx services)
    (hproceeds : Proceeds ctx services levels)
    (hparameter : parameter ∈ parametersOf ctx service) {source : Registration}
    (hopens : c.Opens ctx target source)
    (hnew : c.underKey source.key (c.servicesFor (closedType target source)) = [])
    (hcloses : ClosedBy ctx services parameter (closedOver target source))
    (hclosing : Closing ctx services (closedOver target source)) :
    Advances ctx services (c.Room ctx services levels service) c
      (fun after => after.Obtains ctx services parameter)
      (specializeFrom ctx (inner ctx levels) c target source) := by
  have hfresh (id : RegistrationId) (other : Service) (hid : c.register[id]? = some other)
      (hkey : other.key = none) : ¬ (closedType target source).same other.type := by
    intro hsame
    rw [TypeExpr.same_comm] at hsame
    have hmem : id ∈ c.underKey none (c.servicesFor (closedType target source)) :=
      (mem_underKey_servicesFor h.arranged.coherent.listed).2 ⟨other, hid, hsame, hkey⟩
    rw [← hopens.key_eq_none h.arranged.coherent, hnew] at hmem
    cases hmem
  have hnest (hroom : c.Room ctx services levels service) :=
    hroom.nest ho hparameter hcloses hclosing hfresh
  unfold specializeFrom
  dsimp only
  rw [if_neg (not_not.2 hopens.arity), hnew]
  dsimp only
  split
  · next hcheck =>
    refine advances_error h _ fun _ hroom => ?_
    obtain ⟨n, rfl, hdepth, -⟩ := hnest hroom
    rw [if_pos hdepth] at hcheck
    cases hcheck
  next check hcheck =>
  split at hcheck
  case isFalse => cases hcheck
  obtain ⟨n, rfl, rfl⟩ := inner_eq_some hcheck
  have hroom (hr : c.Room ctx services (n + 1) service) :
      (c.entered ctx target source).Room ctx services n (closedOver target source) := by
    obtain ⟨m, hm, -, hentered⟩ := hnest hr
    obtain rfl := Nat.succ.inj hm
    exact hentered _ (extends_entered c ctx target source h.arranged.coherent.collect).2
      (entered_specializationDepth c ctx target source)
      ⟨c.size, register_addSpecialization_self c ctx _⟩
  have hnested := nested_advances h hproceeds (Nat.lt_succ_self n) hopens hnew hclosing hroom
  rw [checkNested_entered]
  generalize checkWithin ctx n (c.entered ctx target source) c.size = s at hnested ⊢
  rcases s with ⟨after, _ | _⟩
  · exact hnested.stop
  · have hanswer := hcloses.answerTo_eq
    refine hnested.andThen (advances_refl hnested.regular
      (.selected (selects_of_closedType hanswer (isSome_closedType?_answerFor ..)) ?_))
    rw [hanswer]
    exact hnested.result () rfl

/-- Closing an open service selects what the closed type is served by already. -/
theorem specializeFrom_served_advances (h : c.Regular ctx services)
    (hkey : parameter.key = none) (hasks : Asks ctx services (requested ctx parameter))
    {source : Registration} (hopens : c.Opens ctx (requested ctx parameter) source)
    (htemplate : template? ctx services (requested ctx parameter) =
      some (closedOver (requested ctx parameter) source)) {rest : List RegistrationId}
    (hserved : c.underKey source.key
      (c.servicesFor (closedType (requested ctx parameter) source)) = id :: rest)
    (hfound : c.Found ctx services
      (answerFor ctx services (closedOver (requested ctx parameter) source)) id) :
    Advances ctx services room c (fun after => after.Obtains ctx services parameter)
      (specializeFrom ctx (inner ctx levels) c (requested ctx parameter) source) := by
  have hanswer : answerTo ctx services parameter =
      answerFor ctx services (closedOver (requested ctx parameter) source) := by
    rw [answerTo, hkey, answer_of_template? htemplate]
  have hselects := selects_of_closedType hanswer (isSome_closedType?_answerFor ..)
  rw [← hanswer] at hfound
  unfold specializeFrom
  dsimp only
  rw [if_neg (not_not.2 hopens.arity), hserved]
  dsimp only
  split
  · exact advances_refl h (.selected hselects hfound)
  · next hother =>
    have hold : c.underKey source.key
        (c.servicesFor (closedType (requested ctx parameter) source)) ≠ [] := by
      rw [hserved]
      exact List.cons_ne_nil _ _
    have hgrows := grows_add c ctx
      (aliasOf (requested ctx parameter) (closedType (requested ctx parameter) source) source)
    exact advances_ok (h.redirect hopens hold hother hasks htemplate) hgrows rfl
      (fun _ hid => hid) (.selected hselects (hfound.grow hgrows))

/-- A request that is closed comes to the specialization, or to what is declared in its place. -/
theorem specializeFrom_advances (h : c.Regular ctx services) (ho : Orderly ctx services)
    (hproceeds : Proceeds ctx services levels) (hparameter : parameter ∈ parametersOf ctx service)
    (hkey : parameter.key = none) (hasks : Asks ctx services (requested ctx parameter))
    {source : Registration} (hopens : c.Opens ctx (requested ctx parameter) source)
    (htemplate : template? ctx services (requested ctx parameter) =
      some (closedOver (requested ctx parameter) source)) :
    Advances ctx services (c.Room ctx services levels service) c
      (fun after => after.Obtains ctx services parameter)
      (specializeFrom ctx (inner ctx levels) c (requested ctx parameter) source) := by
  have hnone := hopens.key_eq_none h.arranged.coherent
  have hisTemplate : IsTemplate ctx services (closedOver (requested ctx parameter) source) :=
    ⟨_, hasks, htemplate⟩
  by_cases hnew : under services none (closedOver (requested ctx parameter) source).type = []
  · have hclosing : Closing ctx services (closedOver (requested ctx parameter) source) :=
      ⟨hisTemplate, hnew⟩
    rcases h.underKey_closed ho hclosing with hempty | ⟨id, hid, hfound⟩
    · exact specializeFrom_closed_advances h ho hproceeds hparameter hopens
        (by rw [hnone]; exact hempty) ⟨hkey, htemplate, hnew⟩ hclosing
    · exact specializeFrom_served_advances h hkey hasks hopens htemplate
        (by rw [hnone]; exact hid) hfound
  · obtain ⟨id, rest, hid, hfound, -⟩ := h.underKey_existing hisTemplate hnew
    exact specializeFrom_served_advances h hkey hasks hopens htemplate
      (by rw [hnone]; exact hid) hfound

/-- A request that is closed selects what is registered for it. -/
theorem Regular.obtains_arisen (h : c.Regular ctx services) (ho : Orderly ctx services)
    (hl : LooksUp ctx services (requested ctx parameter) found)
    (hanswer : answerTo ctx services parameter = found) (hfound : found.closedType?.isSome)
    (hfree : ∀ service ∈ services, ¬ service.type.same (requested ctx parameter))
    (hserved : c.servicesFor (requested ctx parameter) ≠ []) :
    c.Obtains ctx services parameter (c.selectAmong ctx none parameter.requiresNonEmpty
      (c.servicesFor (requested ctx parameter))) := by
  obtain ⟨id, hid, hs⟩ := h.selectAmong_arisen ho hl hfound hfree hserved
  rw [hs]
  exact .selected (selects_of_closedType hanswer hfound) (by rwa [hanswer])

/-- A parameter that has to be served, for a type that is registered, comes to what the declared
services tell. -/
theorem Regular.obtains_needed (h : c.Regular ctx services) (ho : Orderly ctx services)
    (hneeds : Needs ctx services parameter)
    (hserved : c.servicesFor (requested ctx parameter) ≠ []) :
    c.Obtains ctx services parameter (c.selectAmong ctx none parameter.requiresNonEmpty
      (c.servicesFor (requested ctx parameter))) := by
  have hl := LooksUp.needed hneeds
  by_cases hany : services.any (·.type.same (requested ctx parameter))
  · have hobtains := h.selectAmong_declared ho (fun _ => hneeds) (Or.inl hany)
    rwa [hneeds.key] at hobtains
  have hfree : ∀ service ∈ services, ¬ service.type.same (requested ctx parameter) :=
    fun service hservice htype => hany (List.any_eq_true.2 ⟨service, hservice, htype⟩)
  by_cases hfound : (answerTo ctx services parameter).closedType?.isSome
  · exact h.obtains_arisen ho hl rfl hfound hfree hserved
  cases hcollection : ctx.settings.collectionElement? (requested ctx parameter) with
  | some element =>
    have hanswer : answerTo ctx services parameter = .collection element.unannotated := by
      simp [answerTo, answer, hany, hneeds.key, hcollection]
    rw [hanswer] at hl
    obtain ⟨family, hfamily, hs⟩ := h.selectAmong_shape ho hl hfree hcollection hserved
    rw [hs]
    exact h.obtains_answerOf ho (fun _ => hneeds) hanswer hfamily
  | none =>
    -- nothing is foretold to be there
    obtain ⟨id, hid⟩ := List.exists_mem_of_ne_nil _ hserved
    obtain ⟨registered, hregistered, htype⟩ := (h.arranged.coherent.listed _ id).1 hid
    have hlt := h.lt_of_looksUp ho hl (by simpa using hfound) (answer_ne_collection hcollection)
      hregistered htype
    rw [h.register_of_lt hlt] at hregistered
    exact absurd htype (hfree registered (List.mem_of_getElem? hregistered))

/-- A request for a type that is registered comes to what the declared services tell. -/
theorem Regular.obtains_served (h : c.Regular ctx services) (ho : Orderly ctx services)
    (hchecked : Checked ctx services service) (hparameter : parameter ∈ parametersOf ctx service)
    (hkey : parameter.key = none) (hserved : c.servicesFor (requested ctx parameter) ≠ []) :
    c.Obtains ctx services parameter (c.selectAmong ctx none parameter.requiresNonEmpty
      (c.servicesFor (requested ctx parameter))) := by
  by_cases hcloses : ∃ template, ClosedBy ctx services parameter template
  · obtain ⟨template, hcloses⟩ := hcloses
    have hasks : Asks ctx services (requested ctx parameter) :=
      ⟨service, parameter, hchecked, hparameter, hkey, rfl⟩
    exact h.obtains_arisen ho (.closes hasks hcloses.closes hcloses.new) hcloses.answerTo_eq
      (isSome_closedType?_answerFor ..) (closesTo_of_template? hcloses.closes).free hserved
  cases hoptional : isOptional ctx parameter with
  | true =>
    exact .optional hoptional fun type recipe hclosed => hcloses (closedBy_of_answerTo hclosed)
  | false => exact h.obtains_needed ho ⟨⟨service, hchecked, hparameter⟩, hkey, hoptional⟩ hserved

/-- A request for a type that is not registered comes to what the declared services tell. -/
theorem resolveTarget_unserved_advances (h : c.Regular ctx services) (ho : Orderly ctx services)
    (hproceeds : Proceeds ctx services levels) (hchecked : Checked ctx services service)
    (hparameter : parameter ∈ parametersOf ctx service) (hkey : parameter.key = none)
    (hnone : c.servicesFor (requested ctx parameter) = []) :
    Advances ctx services (c.Room ctx services levels service) c
      (fun after => after.Obtains ctx services parameter)
      (resolveTarget ctx (inner ctx levels) c none (requested ctx parameter)
        parameter.requiresNonEmpty) := by
  have hasks : Asks ctx services (requested ctx parameter) :=
    ⟨service, parameter, hchecked, hparameter, hkey, rfl⟩
  have hany : services.any (·.type.same (requested ctx parameter)) = false :=
    List.any_eq_false.2 fun service hservice => by
      simpa using h.free_of_servicesFor hnone service hservice
  cases hcollection : ctx.settings.collectionElement? (requested ctx parameter) with
  | some element =>
    have hanswer : answerTo ctx services parameter = .collection element.unannotated := by
      simp [answerTo, answer, hany, hkey, hcollection]
    have hs : Advances ctx services (c.Room ctx services levels service) c _ _ :=
      collection_advances h ho (fun hrequired => ⟨⟨service, hchecked, hparameter⟩, hkey, hrequired⟩)
        hkey hasks hanswer
    unfold resolveTarget
    simpa only [hnone, hcollection, Option.isSome_none, Bool.false_eq_true, if_false] using hs
  | none =>
  cases htemplate : template? ctx services (requested ctx parameter) with
  | some template =>
    obtain ⟨source, hopens, rfl, hs⟩ := h.resolveTarget_opens ho hasks htemplate hnone
    rw [hs]
    exact specializeFrom_advances h ho hproceeds hparameter hkey hasks hopens htemplate
  | none =>
    obtain ⟨after, outcome, hs, hafter, houtcome⟩ :=
      h.resolveTarget_undeclared ho hasks hnone hcollection htemplate
    rw [hs]
    refine advances_remark h hafter ?_
    rcases houtcome with ⟨hanswer, rfl⟩ | ⟨hanswer, ids, rfl⟩
    · have hanswerTo : answerTo ctx services parameter = .undeclared := by
        rw [answerTo, hkey, hanswer]
      exact .undeclared (by simp [selects, hanswerTo]) (by simp [hanswerTo])
    · exact .ambiguous (by rw [answerTo, hkey, hanswer])

/-- A request comes to what the declared services tell. -/
theorem resolveTarget_advances (h : c.Regular ctx services) (ho : Orderly ctx services)
    (hproceeds : Proceeds ctx services levels) (hchecked : Checked ctx services service)
    (hparameter : parameter ∈ parametersOf ctx service) :
    Advances ctx services (c.Room ctx services levels service) c
      (fun after => after.Obtains ctx services parameter)
      (resolveTarget ctx (inner ctx levels) c parameter.key (requested ctx parameter)
        parameter.requiresNonEmpty) := by
  cases hkey : parameter.key with
  | some name =>
    rw [resolveTarget_served _ _ (Or.inr rfl), ← hkey]
    exact advances_refl h (h.selectAmong_declared ho
      (fun hnone => by rw [hkey] at hnone; cases hnone) (Or.inr (by rw [hkey]; rfl)))
  | none =>
  by_cases hnone : c.servicesFor (requested ctx parameter) = []
  · exact resolveTarget_unserved_advances h ho hproceeds hchecked hparameter hkey hnone
  · rw [resolveTarget_served _ _ (Or.inl hnone)]
    exact advances_refl h (h.obtains_served ho hchecked hparameter hkey hnone)

theorem resolveParameter_advances (h : c.Regular ctx services) (ho : Orderly ctx services)
    (hproceeds : Proceeds ctx services levels) (hchecked : Checked ctx services service)
    (hparameter : parameter ∈ parametersOf ctx service) :
    Advances ctx services (c.Room ctx services levels service) c
      (fun after => after.Meets ctx services parameter)
      (resolveParameter ctx (inner ctx levels) c parameter) := by
  have hs := resolveTarget_advances h ho hproceeds hchecked hparameter
  unfold requested at hs
  unfold resolveParameter
  dsimp only
  generalize resolveTarget ctx (inner ctx levels) c parameter.key
    (targetOf ctx (ctx.settings.unwrapNullable parameter.type).1) parameter.requiresNonEmpty = s
    at hs ⊢
  rcases s with ⟨after, _ | outcome⟩
  · exact hs.stop
  · have hasked := askFallback_fst ctx after parameter.key
      (targetOf ctx (ctx.settings.unwrapNullable parameter.type).1) outcome
    refine hs.andThen (advances_remark hs.regular hasked
      ⟨outcome, (hs.result outcome rfl).grow (.of_remark hasked), ?_⟩)
    rw [askFallback_snd]
    rfl

/-- The parameters of a service that is checked are resolved one after the other. -/
theorem resolveParameters_advances (h : c.Regular ctx services) (ho : Orderly ctx services)
    (hproceeds : Proceeds ctx services levels) (hchecked : Checked ctx services service)
    {parameters : List Parameter}
    (hparameters : ∀ parameter ∈ parameters, parameter ∈ parametersOf ctx service) :
    Advances ctx services (c.Room ctx services levels service) c
      (fun after => List.Forall₂ (after.Meets ctx services) parameters)
      (resolveParameters ctx (inner ctx levels) c parameters) := by
  induction parameters generalizing c with
  | nil => exact advances_refl h .nil
  | cons parameter rest ih =>
    have hs := resolveParameter_advances h ho hproceeds hchecked
      (hparameters parameter List.mem_cons_self)
    unfold resolveParameters
    generalize resolveParameter ctx (inner ctx levels) c parameter = s at hs ⊢
    rcases s with ⟨after, _ | first⟩
    · exact hs.stop
    have hnext := ih hs.regular fun other hother =>
      hparameters other (List.mem_cons_of_mem _ hother)
    have hroom (hr : c.Room ctx services levels service) : after.Room ctx services levels service :=
      hr.grow hs.grows hs.depth
    dsimp only
    generalize resolveParameters ctx (inner ctx levels) after rest = t at hnext ⊢
    rcases t with ⟨last, _ | others⟩
    · exact (hs.trans hnext hroom).stop
    · refine hs.trans (hnext.andThen (advances_refl hnext.regular
        (.cons ?_ (hnext.result others rfl)))) hroom
      exact (hs.result first rfl).grow hnext.grows

theorem mem_of_forall₂ {α β : Type} {r : α → β → Prop} {xs : List α} {ys : List β}
    (h : List.Forall₂ r xs ys) {x : α} (hx : x ∈ xs) : ∃ y ∈ ys, r x y := by
  obtain ⟨i, hi, rfl⟩ := List.getElem_of_mem hx
  have hlt : i < ys.length := h.length_eq ▸ hi
  exact ⟨ys[i], List.getElem_mem hlt, h.get hi hlt⟩

/-- A check that has resolved its parameters concludes, and passes if they are all satisfied. -/
theorem conclude_advances (h : c.Regular ctx services) (id : RegistrationId)
    (hchecked : Checked ctx services service) (hnamed : service.resolvedType.isNamed)
    {construction : Construction}
    (hrecipe : recipe ctx service = some (some construction.parameters))
    {parameters : List ParameterResolution}
    (hmeets : List.Forall₂ (c.Meets ctx services) construction.parameters parameters) :
    Advances ctx services room c (fun after _ => after.Done ctx services service)
      (conclude ctx c id ⟨service.resolvedType, service.lifetime, construction, parameters⟩) := by
  let resolution : Resolution := ⟨service.resolvedType, service.lifetime, construction, parameters⟩
  have hrestates := restates_conclude ctx c id resolution
  have hparameters : parametersOf ctx service = construction.parameters := parametersOf_eq hrecipe
  have hsatisfied : (∀ parameter ∈ parametersOf ctx service, isMet ctx services parameter) ↔
      (conclude ctx c id resolution).passes := by
    rw [conclude_passes, hparameters, List.all_eq_true]
    constructor
    · intro hmet p hp
      obtain ⟨parameter, hparameter, hm⟩ : ∃ parameter ∈ construction.parameters,
          c.Meets ctx services parameter p := mem_of_forall₂ hmeets.flip hp
      rw [hm.isSatisfied_eq]
      exact hmet parameter hparameter
    · intro hall parameter hparameter
      obtain ⟨p, hp, hm⟩ := mem_of_forall₂ hmeets hparameter
      rw [← hm.isSatisfied_eq]
      exact hall p hp
  refine ⟨h.conclude id ⟨service, hchecked, rfl, rfl, hrecipe, hmeets⟩, hrestates.grows, ?_,
    fun _ id _ hid _ => Or.inl (hrestates.specialized id hid), ?_,
    fun hsound _ => hsatisfied.1 (hsound service hchecked).met⟩
  · rw [conclude_fst]
    unfold Container.store
    split <;> rfl
  · intro _ hresult
    refine ⟨⟨hnamed, by rw [hrecipe]; rfl, hsatisfied.2 ?_⟩, ?_, ?_⟩
    · rw [Step.passes, hresult]
      rfl
    · intro _ _
      rw [conclude_fst]
      change ((c.store resolution).resolution? resolution.type).isSome
      rw [resolution?_store h.indexed, if_pos (TypeExpr.same_refl _)]
      rfl
    · intro parameter template hparameter hcloses
      rw [hparameters] at hparameter
      obtain ⟨p, -, hm⟩ := mem_of_forall₂ hmeets hparameter
      obtain ⟨id, other, hid, hother, hanswer⟩ := hm.specialized hcloses
      exact ⟨id, other, hrestates.grows.journal.subset hid, hrestates.grows.register_eq_some hother,
        hanswer⟩

/-- A check goes on as it should, whatever was checked before it. -/
theorem checkWithin_advances (ho : Orderly ctx services) (levels : Nat) (c : Container)
    (id : RegistrationId) (service : Service) (h : c.Regular ctx services)
    (hid : c.register[id]? = some service) (hchecked : Checked ctx services service) :
    Advances ctx services (c.Room ctx services levels service) c
      (fun after _ => after.Done ctx services service) (checkWithin ctx levels c id) := by
  induction levels using Nat.strongRecOn generalizing c id service with
  | ind levels ih =>
    obtain ⟨r, hr, rfl⟩ := register_eq_some_iff.1 hid
    have hproceeds : Proceeds ctx services levels := ih
    rw [checkWithin_eq]
    unfold checkWith
    rw [hr]
    change Advances _ _ _ _ _ (if !r.toService.plain.resolvedType.isNamed then _ else _)
    split
    · next hunnamed =>
      refine advances_error h _ fun hsound => ?_
      rw [(hsound _ hchecked).named] at hunnamed
      cases hunnamed
    next hnamed =>
    have hnamed : r.toService.plain.resolvedType.isNamed := by simpa using hnamed
    cases hconstruction : selectConstruction ctx r.resolvedType r.member with
    | error fault =>
      refine advances_error h _ fun hsound => ?_
      have hconstructed := (hsound _ hchecked).constructed
      rw [recipe, show selectConstruction ctx r.toService.plain.resolvedType
        r.toService.plain.member = .error fault from hconstruction] at hconstructed
      cases hconstructed
    | ok construction =>
    have hrecipe : recipe ctx r.toService.plain = some (construction.map (·.parameters)) :=
      recipe_of_selectConstruction hconstruction
    have hasked := parametersOf_eq hrecipe
    cases construction with
    | none =>
      replace hasked : parametersOf ctx r.toService.plain = [] := hasked
      refine advances_refl h ⟨⟨hnamed, by rw [hrecipe]; rfl, ?_⟩, ?_, ?_⟩
      · rw [hasked]
        exact fun _ hparameter => by cases hparameter
      · intro parameters hsome
        rw [hrecipe] at hsome
        cases hsome
      · rw [hasked]
        exact fun _ _ hparameter => by cases hparameter
    | some construction =>
      replace hasked : parametersOf ctx r.toService.plain = construction.parameters := hasked
      have hs := resolveParameters_advances h ho hproceeds hchecked
        fun parameter hparameter => hasked ▸ hparameter
      dsimp only
      generalize resolveParameters ctx (inner ctx levels) c construction.parameters = s at hs ⊢
      rcases s with ⟨after, _ | parameters⟩
      · exact hs.stop
      · exact hs.andThen (conclude_advances hs.regular id hchecked hnamed hrecipe
          (hs.result parameters rfl))

/-- The declared services are checked one after the other. -/
theorem checkEach_advances (h : c.Regular ctx services) (ho : Orderly ctx services)
    (hdepth : c.specializationDepth = 0) {ids : List RegistrationId}
    (hids : ∀ id ∈ ids, id < services.length) :
    Advances ctx services (Bounded ctx services) c
      (fun after _ => ∀ id ∈ ids, ∀ service, services[id]? = some service → service.isClosed →
        after.Done ctx services service)
      (checkEach ctx c ids) := by
  induction ids generalizing c with
  | nil => exact advances_refl h fun _ hmem => by cases hmem
  | cons id rest ih =>
    have hrest : ∀ id ∈ rest, id < services.length := fun id hmem =>
      hids id (List.mem_cons_of_mem _ hmem)
    have hlt := hids id List.mem_cons_self
    have hid : services[id]? = some services[id] := List.getElem?_eq_getElem hlt
    have hregister : c.register[id]? = some services[id] := by rw [h.register_of_lt hlt, hid]
    unfold checkEach
    rw [isClosed_of_register hregister]
    split
    · next hclosed =>
      have hs := checkWithin_advances ho ctx.settings.maxSpecializationDepth c id _ h hregister
        (.declared (List.getElem_mem hlt) hclosed)
      unfold Container.check
      rw [hdepth, Nat.sub_zero]
      generalize checkWithin ctx ctx.settings.maxSpecializationDepth c id = s at hs ⊢
      rcases s with ⟨after, _ | _⟩
      · exact (hs.within fun hbounded => .start hbounded hdepth _).stop
      · have hnext := ih hs.regular (hs.depth.trans hdepth) hrest
        refine (hs.within fun hbounded => .start hbounded hdepth _).trans
          (hnext.imp fun _ hlast => ?_) fun hbounded => hbounded
        intro other hmem service hservice hclosed
        rcases List.mem_cons.1 hmem with rfl | hmem
        · obtain rfl := Option.some.inj (hid.symm.trans hservice)
          exact (hs.result () rfl).grow hnext.grows
        · exact hlast other hmem service hservice hclosed
    · next hopen =>
      refine (ih h hdepth hrest).imp fun _ hlast => ?_
      intro other hmem service hservice hclosed
      rcases List.mem_cons.1 hmem with rfl | hmem
      · obtain rfl := Option.some.inj (hid.symm.trans hservice)
        exact absurd hclosed hopen
      · exact hlast other hmem service hservice hclosed

end Wiring.Container
