import Wiring.Proofs.Check.Frame
import Wiring.Proofs.Check.Upkeep

/-!
Steps of an orderly run. A step leaves the container regular, with every specialization that it made
settled if it passed; it passes if there is room for the specializations that it nests, and every
service that is checked can be constructed from what its parameters come to.
-/

namespace Wiring

namespace Forecast

/-- The service can be constructed from what its parameters come to. -/
structure Sound (ctx : Context) (services : List Service) (service : Service) : Prop where
  named : service.resolvedType.isNamed
  constructed : (recipe ctx service).isSome
  met (parameter : Parameter) : parameter ∈ parametersOf ctx service →
    isMet ctx services parameter

/-- Services that construct the same type from the same parameters are sound together. -/
theorem Sound.congr {ctx : Context} {services : List Service} {service other : Service}
    (h : Sound ctx services service) (hsame : service.resolvedType.same other.resolvedType)
    (hrecipe : recipe ctx service = recipe ctx other) : Sound ctx services other where
  named := by
    rw [← h.named, TypeExpr.isNamed, TypeExpr.isNamed, TypeExpr.kind_eq_of_same hsame]
  constructed := by
    rw [← hrecipe]
    exact h.constructed
  met parameter hparameter := by
    rw [parametersOf, ← hrecipe] at hparameter
    exact h.met parameter hparameter

end Forecast

namespace Container

open Forecast

variable {ctx : Context} {services : List Service} {a b c : Container} {levels : Nat}
  {service template : Service} {parameter : Parameter}

/-- The check of the service has passed, or of one that is constructed alike, and what it asked for
is there. -/
structure Done (ctx : Context) (services : List Service) (c : Container) (service : Service) :
    Prop where
  sound : Sound ctx services service
  resolved (parameters : List Parameter) : recipe ctx service = some (some parameters) →
    (c.resolution? service.resolvedType).isSome
  specialized (parameter : Parameter) (template : Service) :
    parameter ∈ parametersOf ctx service → ClosedBy ctx services parameter template →
    ∃ id other, .specialized id ∈ c.journal ∧ c.register[id]? = some other ∧
      answerFor ctx services other = answerFor ctx services template

/-- The specializations under way, the service to check among them, leave room for `levels` more. -/
structure Room (ctx : Context) (services : List Service) (c : Container) (levels : Nat)
    (service : Service) : Prop where
  bounded : Bounded ctx services
  under : ∃ under : List Service, under.length = c.specializationDepth ∧
    levels + under.length = ctx.settings.maxSpecializationDepth ∧ Distinct ctx services under ∧
    (∀ template ∈ under, ∃ id : RegistrationId, c.register[id]? = some template) ∧
    under.IsChain (fun inner outer => Nests ctx services outer inner) ∧
    ∀ template ∈ under.head?, template = service

/-- The step leads on in an orderly way, to a result as in `P`; it passes if it has room and every
service that is checked is sound. -/
structure Advances {α : Type} (ctx : Context) (services : List Service) (room : Prop)
    (a : Container) (P : Container → α → Prop) (s : Step α) : Prop where
  regular : s.1.Regular ctx services
  grows : a.Grows s.1
  depth : s.1.specializationDepth = a.specializationDepth
  done : s.passes → ∀ id template, .specialized id ∈ s.1.journal →
    s.1.register[id]? = some template →
    .specialized id ∈ a.journal ∨ s.1.Done ctx services template
  result (x : α) : s.2 = .ok x → P s.1 x
  passes : (∀ service, Checked ctx services service → Sound ctx services service) → room → s.passes

theorem Done.grow (h : a.Done ctx services service) (hgrows : a.Grows b) :
    b.Done ctx services service where
  sound := h.sound
  resolved parameters hrecipe := hgrows.resolved _ (h.resolved parameters hrecipe)
  specialized parameter template hparameter hcloses := by
    obtain ⟨id, other, hid, hother, hsame⟩ := h.specialized parameter template hparameter hcloses
    exact ⟨id, other, hgrows.journal.subset hid, hgrows.register_eq_some hother, hsame⟩

theorem Done.congr {other : Service} (h : c.Done ctx services service)
    (hsame : service.resolvedType.same other.resolvedType)
    (hrecipe : recipe ctx service = recipe ctx other) : c.Done ctx services other where
  sound := h.sound.congr hsame hrecipe
  resolved parameters hother := by
    have hresolved := h.resolved parameters (hrecipe.trans hother)
    rwa [resolution?, TypeMap.get?_congr c.resolutionIndex hsame] at hresolved
  specialized parameter template hparameter := by
    rw [parametersOf, ← hrecipe] at hparameter
    exact h.specialized parameter template hparameter

theorem Room.grow (h : a.Room ctx services levels service) (hgrows : a.Grows b)
    (hdepth : b.specializationDepth = a.specializationDepth) :
    b.Room ctx services levels service := by
  obtain ⟨under, hlength, hlevels, hdistinct, hunder, hchain, hhead⟩ := h.under
  refine ⟨h.bounded, under, hlength.trans hdepth.symm, hlevels, hdistinct, ?_, hchain, hhead⟩
  intro template htemplate
  obtain ⟨id, hid⟩ := hunder template htemplate
  exact ⟨id, hgrows.register_eq_some hid⟩

/-- One more specialization fits in, as those under way and it are a chain. -/
theorem Room.nest (h : c.Room ctx services levels service) (ho : Orderly ctx services)
    (hparameter : parameter ∈ parametersOf ctx service)
    (hcloses : ClosedBy ctx services parameter template) (hclosing : Closing ctx services template)
    (hfresh : ∀ (id : RegistrationId) (other : Service), c.register[id]? = some other →
      other.key = none → ¬ template.type.same other.type) :
    ∃ n, levels = n + 1 ∧ c.specializationDepth < ctx.settings.maxSpecializationDepth ∧
      ∀ b : Container, c.Grows b → b.specializationDepth = c.specializationDepth + 1 →
        (∃ id : RegistrationId, b.register[id]? = some template) →
        b.Room ctx services n template := by
  obtain ⟨under, hlength, hlevels, hdistinct, hunder, hchain, hhead⟩ := h.under
  have hdistinct' : Distinct ctx services (template :: under) := by
    refine ⟨List.pairwise_cons.2 ⟨fun other hother => ?_, hdistinct.apart⟩, fun other hother => ?_⟩
    · obtain ⟨id, hid⟩ := hunder other hother
      exact hfresh id other hid (hdistinct.closing other hother).isTemplate.plain.1
    · rcases List.mem_cons.1 hother with rfl | hother
      · exact hclosing
      · exact hdistinct.closing other hother
  have hchain' : (template :: under).IsChain fun inner outer => Nests ctx services outer inner := by
    cases under with
    | nil => exact .singleton _
    | cons outer rest =>
      refine List.isChain_cons_cons.2 ⟨?_, hchain⟩
      rw [hhead outer rfl]
      exact ⟨parameter, hparameter, hcloses⟩
  have hdepth := ho.depth h.bounded _ hdistinct' hchain'
  rw [List.length_cons] at hdepth
  refine ⟨levels - 1, by omega, by omega, fun b hgrows hb hregistered => ?_⟩
  refine ⟨h.bounded, template :: under, by rw [List.length_cons, hb, hlength], ?_, hdistinct', ?_,
    hchain', ?_⟩
  · rw [List.length_cons]
    omega
  · intro other hother
    rcases List.mem_cons.1 hother with rfl | hother
    · exact hregistered
    · obtain ⟨id, hid⟩ := hunder other hother
      exact ⟨id, hgrows.register_eq_some hid⟩
  · intro other hother
    exact (Option.some.inj hother).symm

theorem advances_ok {α : Type} {room : Prop} {P : Container → α → Prop} {x : α}
    (h : b.Regular ctx services) (hgrows : a.Grows b)
    (hdepth : b.specializationDepth = a.specializationDepth)
    (hjournal : ∀ id, .specialized id ∈ b.journal → .specialized id ∈ a.journal) (hx : P b x) :
    Advances ctx services room a P (b, .ok x) where
  regular := h
  grows := hgrows
  depth := hdepth
  done _ id _ hid _ := Or.inl (hjournal id hid)
  result y hy := by
    cases hy
    exact hx
  passes _ _ := rfl

theorem Room.start (hbounded : Bounded ctx services) (hdepth : c.specializationDepth = 0)
    (service : Service) : c.Room ctx services ctx.settings.maxSpecializationDepth service :=
  ⟨hbounded, [], hdepth.symm, rfl, ⟨.nil, by simp⟩, by simp, .nil, by simp⟩

/-- A step that changes nothing. -/
theorem advances_refl {α : Type} {room : Prop} {P : Container → α → Prop} {x : α}
    (h : c.Regular ctx services) (hx : P c x) : Advances ctx services room c P (c, .ok x) :=
  advances_ok h (.refl c) rfl (fun _ hid => hid) hx

section Steps

variable {room : Prop}

theorem Advances.stop {α β : Type} {P : Container → α → Prop} {Q : Container → β → Prop}
    {fault : Fault} (h : Advances ctx services room a P (b, .error fault)) :
    Advances ctx services room a Q (b, .error fault) where
  regular := h.regular
  grows := h.grows
  depth := h.depth
  done hpasses := by cases hpasses
  result _ hx := by cases hx
  passes hsound hroom := by cases h.passes hsound hroom

theorem Advances.within {α : Type} {room' : Prop} {P : Container → α → Prop} {s : Step α}
    (h : Advances ctx services room' a P s) (hroom : room → room') :
    Advances ctx services room a P s :=
  { h with passes := fun hsound hr => h.passes hsound (hroom hr) }

theorem Advances.imp {α : Type} {P Q : Container → α → Prop} {s : Step α}
    (h : Advances ctx services room a P s) (hPQ : ∀ x, P s.1 x → Q s.1 x) :
    Advances ctx services room a Q s :=
  { h with result := fun x hx => hPQ x (h.result x hx) }

/-- A step after one that passed. -/
theorem Advances.trans {α β : Type} {room' : Prop} {P : Container → α → Prop}
    {Q : Container → β → Prop} {x : α} {s : Step β}
    (h : Advances ctx services room a P (b, .ok x)) (hnext : Advances ctx services room' b Q s)
    (hroom : room → room') : Advances ctx services room a Q s where
  regular := hnext.regular
  grows := h.grows.trans hnext.grows
  depth := hnext.depth.trans h.depth
  done hpasses id template hid htemplate := by
    rcases hnext.done hpasses id template hid htemplate with hold | hdone
    · obtain ⟨template', hplaced, -⟩ := h.regular.placed id hold
      have hregister := hnext.grows.register_eq_some hplaced.registered
      obtain rfl := Option.some.inj (hregister.symm.trans htemplate)
      exact (h.done rfl id _ hold hplaced.registered).imp_right fun hdone =>
        hdone.grow hnext.grows
    · exact Or.inr hdone
  result := hnext.result
  passes hsound hr := hnext.passes hsound (hroom hr)

/-- A step after one that passed, which needs no room. -/
theorem Advances.andThen {α β : Type} {P : Container → α → Prop} {Q : Container → β → Prop} {x : α}
    {s : Step β} (h : Advances ctx services room a P (b, .ok x))
    (hnext : Advances ctx services True b Q s) : Advances ctx services room a Q s :=
  h.trans hnext fun _ => trivial

theorem advances_error {α : Type} {P : Container → α → Prop} (h : c.Regular ctx services)
    (fault : Fault)
    (hfails : (∀ service, Checked ctx services service → Sound ctx services service) → ¬ room) :
    Advances ctx services room c P (c, .error fault) where
  regular := h
  grows := .refl c
  depth := rfl
  done hpasses := by cases hpasses
  result _ hx := by cases hx
  passes hsound hroom := absurd hroom (hfails hsound)

theorem Grows.of_remark
    (h : b = a ∨ ∃ event : Event, event.isRemark ∧ b = a.note event) : a.Grows b := by
  rcases h with rfl | ⟨event, -, rfl⟩
  · exact .refl _
  · exact grows_note _ _

theorem advances_remark {α : Type} {P : Container → α → Prop} {x : α} {after : Container}
    (h : c.Regular ctx services)
    (hafter : after = c ∨ ∃ event : Event, event.isRemark ∧ after = c.note event)
    (hx : P after x) : Advances ctx services room c P (after, .ok x) := by
  rcases hafter with rfl | ⟨event, hremark, rfl⟩
  · exact advances_refl h hx
  · refine advances_ok (h.note hremark) (grows_note c event) rfl (fun id hid => ?_) hx
    rcases List.mem_append.1 hid with hold | hlast
    · exact hold
    · rw [← List.mem_singleton.1 hlast] at hremark
      cases hremark

end Steps

end Container
end Wiring
