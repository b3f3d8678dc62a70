import Wiring.Proofs.Check.Follow
import Wiring.Proofs.Check.Key

/-!
What a request comes to in the container of an orderly run. However much was checked before it, it
comes to what the declared services tell: to a declared service, to a collection, to a closed type
that is there already or still has to be made, or to nothing.
-/

namespace Wiring.Container

open Forecast

variable {ctx : Context} {services : List Service} {c : Container} {id : RegistrationId}
  {key : Option String} {target element : TypeExpr} {found : Answer} {service template : Service}
  {parameter : Parameter} {check : Option Check} {requireNonEmpty : Bool}

theorem selects_of_closedType (h : answerTo ctx services parameter = found)
    (hfound : found.closedType?.isSome) : selects ctx services parameter := by
  unfold selects
  rw [h]
  rcases Answer.existing_or_closed hfound with ⟨_, rfl⟩ | ⟨_, _, rfl⟩ <;> rfl

/-- Whether a parameter is satisfied is foretold. -/
theorem Meets.isSatisfied_eq {p : ParameterResolution} (h : c.Meets ctx services parameter p) :
    p.isSatisfied = isMet ctx services parameter := by
  obtain ⟨outcome, hobtains, rfl⟩ := h
  unfold isMet ParameterResolution.isSatisfied ParameterResolution.isOptional isOptional
  cases hobtains with
  | selected hselects _ => simp [hselects, Outcome.selected?]
  | ambiguous hanswer =>
    have hselects : selects ctx services parameter = false := by simp [selects, hanswer]
    simp [hselects, hanswer, Outcome.selected?]
  | undeclared hselects hanswer =>
    cases Fallback.supplies ctx.fallback parameter.key (requested ctx parameter) <;>
      simp [hselects, hanswer, Outcome.selected?]
  | optional hoptional _ =>
    rw [isOptional] at hoptional
    simp only [hoptional, Bool.or_true]

theorem Meets.found_of_selected {p : ParameterResolution}
    (h : c.Meets ctx services parameter p) (hrequired : isOptional ctx parameter = false)
    (hid : p.outcome.selected? = some id) :
    selects ctx services parameter ∧ c.Found ctx services (answerTo ctx services parameter) id := by
  obtain ⟨outcome, hobtains, rfl⟩ := h
  dsimp only at hid
  cases hobtains with
  | selected hselects hfound =>
    cases hid
    exact ⟨hselects, hfound⟩
  | ambiguous _ => cases hid
  | undeclared _ _ => split at hid <;> cases hid
  | optional hoptional _ =>
    rw [hrequired] at hoptional
    cases hoptional

/-- What has to be selected is, and so is what has to be made. -/
theorem Meets.selected_of_selects {p : ParameterResolution}
    (h : c.Meets ctx services parameter p) (hselects : selects ctx services parameter)
    (hexact : isOptional ctx parameter = false ∨
      ∃ type recipe, answerTo ctx services parameter = .closed type recipe) :
    ∃ id, p.outcome.selected? = some id ∧
      c.Found ctx services (answerTo ctx services parameter) id := by
  obtain ⟨outcome, hobtains, rfl⟩ := h
  cases hobtains with
  | @selected id _ hfound => exact ⟨id, rfl, hfound⟩
  | undeclared hnot _ => rw [hnot] at hselects; cases hselects
  | ambiguous hanswer => simp [selects, hanswer] at hselects
  | optional hoptional hanswer =>
    rcases hexact with hrequired | ⟨type, recipe, hclosed⟩
    · rw [hrequired] at hoptional
      cases hoptional
    · exact absurd hclosed (hanswer type recipe)

/-- A specialization that a parameter comes to was registered for it, or before, with another
lifetime perhaps. -/
theorem Meets.specialized {p : ParameterResolution} (h : c.Meets ctx services parameter p)
    (hcloses : ClosedBy ctx services parameter template) :
    ∃ id other, .specialized id ∈ c.journal ∧ c.register[id]? = some other ∧
      answerFor ctx services other = answerFor ctx services template := by
  have hanswer : answerTo ctx services parameter = _ :=
    hcloses.answerTo_eq.trans (answerFor_of_new ctx hcloses.new)
  obtain ⟨id, -, hfound⟩ :=
    h.selected_of_selects (selects_of_closedType hanswer rfl) (Or.inr ⟨_, _, hanswer⟩)
  rw [hanswer] at hfound
  obtain ⟨other, hother, hsame, hspecialized⟩ := hfound
  exact ⟨id, other, hspecialized, hother, hsame.trans (answerFor_of_new ctx hcloses.new).symm⟩

namespace Regular

theorem isEmptyCollection_eq_false (h : c.Regular ctx services) (hid : ¬ c.IsEnumerable id) :
    c.isEmptyCollection id = false := by
  unfold isEmptyCollection
  cases hr : c.registration? id with
  | none => rfl
  | some r => simp [Registration.isEmptyCollection, h.collected_eq_none hr hid]

/-- The registrations of a declared type, or under a key, are the declared ones. -/
theorem lt_of_declared (h : c.Regular ctx services) (ho : Orderly ctx services)
    (hneeds : parameter.key = none → Needs ctx services parameter)
    (hdeclared : services.any (·.type.same (requested ctx parameter)) ∨ parameter.key.isSome)
    (hkey : parameter.key = none) (hid : c.register[id]? = some service)
    (htype : service.type.same (requested ctx parameter)) : id < services.length := by
  have hl := LooksUp.needed (hneeds hkey)
  have hpick : answerTo ctx services parameter = _ := answer_of_declared hdeclared
  match hunder : under services parameter.key (requested ctx parameter) with
  | [] | [_] | _ :: _ :: _ =>
    rw [hunder, pick] at hpick
    rw [hpick] at hl
    exact h.lt_of_looksUp ho hl rfl (by simp) hid htype

/-- A request that is answered by what is declared. -/
theorem selectAmong_declared (h : c.Regular ctx services) (ho : Orderly ctx services)
    (hneeds : parameter.key = none → Needs ctx services parameter)
    (hdeclared : services.any (·.type.same (requested ctx parameter)) ∨ parameter.key.isSome) :
    c.Obtains ctx services parameter (c.selectAmong ctx parameter.key parameter.requiresNonEmpty
      (c.servicesFor (requested ctx parameter))) := by
  have hfree (hkey : parameter.key = none) (id : RegistrationId) (service : Service)
      (hid : c.register[id]? = some service)
      (htype : service.type.same (requested ctx parameter)) : id < services.length :=
    h.lt_of_declared ho hneeds hdeclared hkey hid htype
  have hplaces : List.Forall₂ _
      (c.underKey parameter.key (c.servicesFor (requested ctx parameter))) _ :=
    h.forall₂_under hfree
  have hanswer : answerTo ctx services parameter = _ := answer_of_declared hdeclared
  unfold selectAmong
  generalize c.underKey parameter.key (c.servicesFor (requested ctx parameter)) = ids at hplaces ⊢
  generalize hnames : under services parameter.key (requested ctx parameter) = names
    at hplaces hanswer
  cases hplaces with
  | nil =>
    refine .undeclared ?_ ?_
    · simp [selects, hanswer, pick]
    · simp [hanswer, pick]
  | @cons id service _ _ hid hrest =>
    cases hrest with
    | cons _ _ => exact .ambiguous (by simp [hanswer, pick])
    | nil =>
      have hmem : service ∈ under services parameter.key (requested ctx parameter) := by
        simp [hnames]
      have hlt : id < services.length :=
        h.lt_of_free hfree hid (mem_under.1 hmem).2.1 (mem_under.1 hmem).2.2
      rw [h.register_of_lt hlt] at hid
      obtain ⟨next, hnext, hleads, henumerable⟩ := h.follow_leads ho hid
      simp only [h.isEmptyCollection_eq_false henumerable, Bool.and_false, Bool.false_eq_true,
        if_false]
      refine .selected (by simp [selects, hanswer, pick]) ?_
      rw [hanswer]
      exact ⟨next, hnext, .declared hleads, henumerable⟩

/-- Nothing is declared for a type that is not registered. -/
theorem free_of_servicesFor (h : c.Regular ctx services) (hnone : c.servicesFor target = []) :
    ∀ service ∈ services, ¬ service.type.same target := by
  intro service hservice htype
  obtain ⟨id, hid⟩ := List.getElem?_of_mem hservice
  have hlt : id < services.length := (List.getElem?_eq_some_iff.1 hid).1
  have hmem : id ∈ c.servicesFor target := (h.arranged.coherent.listed target id).2
    ⟨service, by rw [h.register_of_lt hlt, hid], htype⟩
  rw [hnone] at hmem
  cases hmem

/-- What is registered for a type that a request is closed for answers the request. -/
theorem selectAmong_arisen (h : c.Regular ctx services) (ho : Orderly ctx services)
    (hl : LooksUp ctx services target found) (hfound : found.closedType?.isSome)
    (hfree : ∀ service ∈ services, ¬ service.type.same target)
    (hserved : c.servicesFor target ≠ []) :
    ∃ id, c.Found ctx services found id ∧
      c.selectAmong ctx none requireNonEmpty (c.servicesFor target) = .selected id := by
  have hids : ∀ id ∈ c.servicesFor target, ∃ service, c.register[id]? = some service ∧
      service.type.same target ∧ c.Arises ctx services found id service := by
    intro id hid
    obtain ⟨service, hservice, htype⟩ := (h.arranged.coherent.listed target id).1 hid
    refine ⟨service, hservice, htype, h.arises_of_looksUp ho hl ?_ hservice htype⟩
    refine Nat.le_of_not_lt fun hlt => ?_
    rw [h.register_of_lt hlt] at hservice
    exact hfree service (List.mem_of_getElem? hservice) htype
  obtain ⟨first, service, hfirst, hservice, -, ha⟩ :=
    (h.arisen_cases ho hl hfound (h.arranged.ordered target) hids).resolve_left hserved
  have hfollow := h.follow_arisen ho hfound ha hservice
  obtain ⟨-, -, -, henumerable⟩ := h.yields_of_found hfound hfollow
  refine ⟨c.follow ctx first, hfollow, ?_⟩
  have hunder : c.underKey none [first] = [first] := by
    obtain ⟨r, hr, rfl⟩ := register_eq_some_iff.1 hservice
    have hkey : r.key = none := (h.registers ha hservice).key_eq_none
    simp [underKey, hr, hkey]
  unfold selectAmong
  simp [hfirst, hunder, h.isEmptyCollection_eq_false henumerable]

/-- What is registered for a collection that is looked up is a shape of it. -/
theorem selectAmong_shape (h : c.Regular ctx services) (ho : Orderly ctx services)
    (hl : LooksUp ctx services target (.collection element.unannotated))
    (hfree : ∀ service ∈ services, ¬ service.type.same target)
    (hcollection : ctx.settings.collectionElement? target = some element)
    (hserved : c.servicesFor target ≠ []) :
    ∃ family, c.families.get? element = some family ∧
      c.selectAmong ctx none requireNonEmpty (c.servicesFor target) =
        c.answerOf family requireNonEmpty := by
  have hshape : ∀ id ∈ c.servicesFor target, ∃ family, c.families.get? element = some family ∧
      id ∈ family.ids := by
    intro id hid
    obtain ⟨service, hservice, htype⟩ := (h.arranged.coherent.listed target id).1 hid
    have hle : services.length ≤ id := Nat.le_of_not_lt fun hlt => by
      rw [h.register_of_lt hlt] at hservice
      exact hfree service (List.mem_of_getElem? hservice) htype
    rcases (h.arises_of_looksUp ho hl hle hservice htype).answerFor_or_shape with
      ⟨template, hfound⟩ | ⟨other, family, hfamily, hmem, hfound⟩
    · exact absurd hfound.symm (answerFor_ne_collection _)
    · refine ⟨family, ?_, hmem⟩
      rwa [TypeMap.get?_congr c.families (TypeExpr.same_iff.2 (Answer.collection.inj hfound))]
  obtain ⟨first, hfirst⟩ := List.exists_mem_of_ne_nil _ hserved
  obtain ⟨family, hfamily, -⟩ := hshape first hfirst
  refine ⟨family, hfamily, ?_⟩
  have hs := h.arranged.resolveTarget_shape (ho.names _ _ hl) hcollection hfamily (fun id hid => by
    obtain ⟨family', hfamily', hmem⟩ := hshape id hid
    rw [hfamily] at hfamily'
    cases hfamily'
    exact hmem) none requireNonEmpty
  rw [resolveTarget_served _ _ (Or.inl hserved)] at hs
  injection hs with _ hs
  injection hs

/-- The open services declared for a request are found. -/
theorem forall₂_openedFor (h : c.Regular ctx services) (ho : Orderly ctx services)
    (hasks : Asks ctx services target) {definition : TypeExpr}
    (hdefinition : ctx.program.genericDefinition target = some definition) :
    List.Forall₂ (fun (id : RegistrationId) opened => c.register[id]? = some opened)
      (c.underKey none (c.servicesFor definition)) (openedFor ctx services target) := by
  unfold openedFor
  rw [hdefinition]
  exact h.forall₂_under fun _ id service hid =>
    h.lt_of_looksUp ho (.definition hasks hdefinition) rfl (by simp) hid

/-- An open service leads where it led before anything was checked. -/
theorem follow_opened (h : c.Regular ctx services) (ho : Orderly ctx services)
    (hasks : Asks ctx services target) (hopened : service ∈ openedFor ctx services target)
    (hid : c.register[id]? = some service) :
    c.register[c.follow ctx id]? = some (lead services service) := by
  have hmem := hopened
  unfold openedFor at hmem
  split at hmem
  · cases hmem
  next definition hdefinition =>
  have hlt : id < services.length :=
    h.lt_of_looksUp ho (.definition hasks hdefinition) rfl (by simp) hid (mem_under.1 hmem).2.1
  rw [h.register_of_lt hlt] at hid
  exact (h.follow_lead hid fun implementation himplementation hother _ place other hplace =>
    h.lt_of_looksUp ho (.implementation hasks hopened himplementation hother) rfl (by simp)
      hplace).1

/-- A request for a type that is not registered is closed from the open service declared for it. -/
theorem resolveTarget_opens (h : c.Regular ctx services) (ho : Orderly ctx services)
    (hasks : Asks ctx services target) (htemplate : template? ctx services target = some template)
    (hnone : c.servicesFor target = []) :
    ∃ source : Registration, c.Opens ctx target source ∧ closedOver target source = template ∧
      resolveTarget ctx check c none target requireNonEmpty =
        specializeFrom ctx check c target source := by
  have hcloses := closesTo_of_template? htemplate
  obtain ⟨opened, hopened, harity, rfl⟩ := hcloses.opened
  cases hdefinition : ctx.program.genericDefinition target with
  | none =>
    rw [openedFor, hdefinition] at hopened
    cases hopened
  | some definition =>
  have hplaces := h.forall₂_openedFor ho hasks hdefinition
  have hmem : opened ∈ openedFor ctx services target := by simp [hopened]
  rw [hopened] at hplaces
  generalize hids : c.underKey none (c.servicesFor definition) = ids at hplaces
  cases hplaces with
  | @cons first _ _ _ hfirst hrest =>
  cases hrest
  obtain ⟨source, hsource, hplain⟩ :=
    register_eq_some_iff.1 (h.follow_opened ho hasks hmem hfirst)
  rw [← hplain] at harity ⊢
  refine ⟨source, ⟨hnone, hcloses.noCollection, hcloses.generic,
    ⟨definition, first, hdefinition, hids, hsource⟩, harity⟩, rfl, ?_⟩
  unfold resolveTarget specialize
  simp [hnone, hcloses.noCollection, hcloses.generic, hdefinition, hids, hsource]

/-- Where closing comes to nothing a remark may be left, and nothing is registered. -/
theorem specialize_undeclared (h : c.Regular ctx services) (ho : Orderly ctx services)
    (hasks : Asks ctx services target)
    (hfree : ∀ service ∈ services, ¬ service.type.same target)
    (hcollection : ctx.settings.collectionElement? target = none) (hgeneric : target.isGeneric)
    (htemplate : template? ctx services target = none) :
    ∃ after outcome, specialize ctx check c target = (after, .ok outcome) ∧
      (after = c ∨ ∃ event : Event, event.isRemark ∧ after = c.note event) ∧
      ((openedFor ctx services target).length < 2 ∧ outcome = .undeclared ∨
        2 ≤ (openedFor ctx services target).length ∧ ∃ ids, outcome = .ambiguous ids) := by
  cases hdefinition : ctx.program.genericDefinition target with
  | none =>
    refine ⟨c, .undeclared, by simp [specialize, hdefinition], Or.inl rfl, Or.inl ⟨?_, rfl⟩⟩
    simp [openedFor, hdefinition]
  | some definition =>
  have hplaces := h.forall₂_openedFor ho hasks hdefinition
  have hlength := hplaces.length_eq
  match hids : c.underKey none (c.servicesFor definition) with
  | [] =>
    rw [hids] at hlength
    refine ⟨c, .undeclared, by simp [specialize, hdefinition, hids], Or.inl rfl, Or.inl ⟨?_, rfl⟩⟩
    rw [← hlength]
    exact Nat.zero_lt_two
  | first :: second :: more =>
    rw [hids] at hlength
    refine ⟨c, .ambiguous (first :: second :: more), by simp [specialize, hdefinition, hids],
      Or.inl rfl, Or.inr ⟨?_, _, rfl⟩⟩
    rw [← hlength]
    exact Nat.le_add_left 2 _
  | [first] =>
  rw [hids] at hplaces hlength
  match hopened : openedFor ctx services target with
  | [] | _ :: _ :: _ =>
    rw [hopened] at hlength
    cases hlength
  | [opened] =>
  rw [hopened] at hplaces
  cases hplaces with
  | cons hfirst _ =>
  have hmem : opened ∈ openedFor ctx services target := by simp [hopened]
  obtain ⟨source, hsource, hplain⟩ :=
    register_eq_some_iff.1 (h.follow_opened ho hasks hmem hfirst)
  have harity : source.resolvedType.args.length ≠ target.args.length := by
    intro harity
    have hclosed : ClosesTo ctx services target (closeOver target (lead services opened)) :=
      ⟨hfree, hcollection, hgeneric, opened, hopened, by rwa [← hplain], rfl⟩
    rw [hclosed.template?_eq] at htemplate
    cases htemplate
  refine ⟨c.note (.warned (.arityMismatch target source.resolvedType)), .undeclared, ?_,
    Or.inr ⟨_, rfl, rfl⟩, Or.inl ⟨Nat.one_lt_two, rfl⟩⟩
  simp [specialize, hdefinition, hids, hsource, specializeFrom, harity]

/-- A request that is for no collection and cannot be closed. -/
theorem resolveTarget_undeclared (h : c.Regular ctx services) (ho : Orderly ctx services)
    (hasks : Asks ctx services target) (hnone : c.servicesFor target = [])
    (hcollection : ctx.settings.collectionElement? target = none)
    (htemplate : template? ctx services target = none) :
    ∃ after outcome, resolveTarget ctx check c none target requireNonEmpty = (after, .ok outcome) ∧
      (after = c ∨ ∃ event : Event, event.isRemark ∧ after = c.note event) ∧
      (answer ctx services none target = .undeclared ∧ outcome = .undeclared ∨
        answer ctx services none target = .ambiguous ∧ ∃ ids, outcome = .ambiguous ids) := by
  have hfree := h.free_of_servicesFor hnone
  have hany : services.any (·.type.same target) = false :=
    List.any_eq_false.2 fun service hservice => by simpa using hfree service hservice
  have hanswer : answer ctx services none target =
      if target.isGeneric && 2 ≤ (openedFor ctx services target).length then .ambiguous
      else .undeclared := by
    simp [answer, hany, hcollection, htemplate]
  rw [hanswer]
  unfold resolveTarget
  simp only [hnone, hcollection, Option.isSome_none, Bool.false_eq_true, if_false]
  by_cases hgeneric : target.isGeneric
  · rw [if_pos hgeneric]
    obtain ⟨after, outcome, hs, hafter, houtcome⟩ :=
      h.specialize_undeclared ho hasks hfree hcollection hgeneric htemplate
    refine ⟨after, outcome, hs, hafter, houtcome.imp ?_ ?_⟩
    · rintro ⟨hlength, houtcome⟩
      exact ⟨by simp [Nat.not_le_of_lt hlength], houtcome⟩
    · rintro ⟨hlength, houtcome⟩
      exact ⟨by simp [hgeneric, hlength], houtcome⟩
  · rw [if_neg hgeneric]
    exact ⟨c, .undeclared, rfl, Or.inl rfl, Or.inl ⟨by simp [hgeneric], rfl⟩⟩

end Regular
end Wiring.Container
