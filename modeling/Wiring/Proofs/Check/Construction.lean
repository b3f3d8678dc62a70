import Wiring.Proofs.Check.Passed
import Wiring.Proofs.Check.Origin

/-!
Whose construction a stored resolution is. Resolutions are worked out by checks of two sorts of
registrations, those that a run checks one after another and specializations; so a type has a
resolution only if one of these constructs it. A registration that nothing constructs never has one.
-/

namespace Wiring.Container

/-- Nothing constructs the service: no member, and no public constructor of its type. -/
def Inert (ctx : Context) (service : Service) : Prop :=
  service.member = none ∧
    ∀ method ∈ ctx.program.constructors service.resolvedType, ¬ method.isPublic

instance (ctx : Context) (service : Service) : Decidable (Inert ctx service) :=
  inferInstanceAs (Decidable (_ ∧ _))

/-- The registration is checked in its own right: it is one of the first `count`, or a
specialization. -/
def IsChecked (count : Nat) (c : Container) (id : RegistrationId) : Prop :=
  id < count ∨ .specialized id ∈ c.journal

/-- The resolution is that of a registration checked in its own right. -/
def Constructs (ctx : Context) (count : Nat) (c : Container) (resolution : Resolution) : Prop :=
  ∃ id service, c.IsChecked count id ∧ c.register[id]? = some service ∧
    resolution.type = service.resolvedType ∧
    selectConstruction ctx service.resolvedType service.member = .ok (some resolution.construction)

variable {ctx : Context} {count : Nat} {a b c : Container}

theorem usableConstructor_of_not_isPublic {type : TypeExpr}
    (h : ∀ method ∈ ctx.program.constructors type, ¬ method.isPublic) :
    usableConstructor ctx type = .ok none := by
  have hnone : (ctx.program.constructors type).filter (·.isPublic) = [] := by simpa using h
  simp [usableConstructor, hnone]

theorem not_inert_of_selectConstruction {service : Service} {construction : Construction}
    (h : selectConstruction ctx service.resolvedType service.member = .ok (some construction)) :
    ¬ Inert ctx service := by
  rintro ⟨hmember, hpublic⟩
  rw [hmember, selectConstruction, usableConstructor_of_not_isPublic hpublic] at h
  cases h

theorem isSettled_iff {id : RegistrationId} :
    c.IsSettled ctx id ↔ ∃ service, c.register[id]? = some service ∧
      ((c.resolution? service.resolvedType).isSome ∨ Inert ctx service) := by
  constructor
  · rintro ⟨r, hr, hsettled⟩
    exact ⟨_, register_of_registration hr, hsettled⟩
  · rintro ⟨service, hservice, hsettled⟩
    obtain ⟨r, hr, rfl⟩ := register_eq_some_iff.1 hservice
    exact ⟨r, hr, hsettled⟩

/-- Types that are the same have the same resolution. -/
theorem resolution?_congr (c : Container) {first second : TypeExpr} (h : first.same second) :
    c.resolution? first = c.resolution? second := by
  rw [resolution?, TypeMap.get?_congr c.resolutionIndex h, resolution?]

theorem IsChecked.grow {id : RegistrationId} (h : a.IsChecked count id) (hgrows : a.Grows b) :
    b.IsChecked count id := h.imp_right fun hid => hgrows.journal.subset hid

theorem Constructs.grow {resolution : Resolution} (h : a.Constructs ctx count resolution)
    (hgrows : a.Grows b) : b.Constructs ctx count resolution := by
  obtain ⟨id, service, hid, hservice, htype, hconstruction⟩ := h
  exact ⟨id, service, hid.grow hgrows, hgrows.register_eq_some hservice, htype, hconstruction⟩

/-- Growth that stores resolutions of registrations checked in their own right. -/
def ExtendsConstructed (ctx : Context) (count : Nat) (a b : Container) : Prop :=
  a.EnumerablesCollect → (∀ r ∈ a.resolutions, a.Constructs ctx count r) →
    ∀ r ∈ b.resolutions, b.Constructs ctx count r

theorem extendsConstructed_of_extends (h : Extends a b)
    (hresolutions : b.resolutions = a.resolutions) : ExtendsConstructed ctx count a b := by
  intro hcollect ha r hr
  rw [hresolutions] at hr
  exact (ha r hr).grow (h hcollect).2

theorem keeps_constructed (ctx : Context) (count : Nat) :
    Keeps ctx (fun _ a b => Extends a b ∧ ExtendsConstructed ctx count a b)
      fun id _ a b => Extends a b ∧ (a.IsChecked count id → ExtendsConstructed ctx count a b) where
  refl _ c := ⟨Extends.refl c, fun _ ha => ha⟩
  trans := by
    rintro ok a b c ⟨hab, hfirst⟩ ⟨hbc, hsecond⟩
    refine ⟨hab.trans hbc, fun hcollect ha => ?_⟩
    exact hsecond (hab hcollect).1 (hfirst hcollect ha)
  remark c event _ :=
    ⟨extends_note c event, extendsConstructed_of_extends (extends_note c event) rfl⟩
  family _ _ hnew :=
    have h := extends_addFamily _ ctx _ hnew
    ⟨h, extendsConstructed_of_extends h rfl⟩
  redirect _ _ _ := ⟨extends_add _ ctx _, extendsConstructed_of_extends (extends_add _ ctx _) rfl⟩
  nested := by
    rintro c target source levels s _ _ _ _ ⟨hextends, hchecked⟩
    have hentered := extends_entered c ctx target source
    have hleft := extends_left s.1
    have hspecialized : (c.entered ctx target source).IsChecked count c.size := by
      right
      rw [entered_journal]
      exact List.mem_append_right _ (List.mem_singleton_self _)
    refine ⟨(hentered.trans hextends).trans hleft, fun hcollect hc => ?_⟩
    have hbefore : ∀ r ∈ (c.entered ctx target source).resolutions,
        (c.entered ctx target source).Constructs ctx count r :=
      extendsConstructed_of_extends hentered (entered_resolutions c ctx target source) hcollect hc
    have hafter := hchecked hspecialized (hentered hcollect).1 hbefore
    exact extendsConstructed_of_extends hleft rfl (hextends (hentered hcollect).1).1 hafter
  stopped _ _ _ _ := by
    rintro ⟨hextends, h⟩
    exact ⟨hextends, fun _ => h⟩
  conclude := by
    rintro a b id r levels construction parameters hr hconstruction _ ⟨hextends, h⟩
    let resolution : Resolution := ⟨r.resolvedType, r.lifetime, construction, parameters⟩
    have hconclude := extends_conclude ctx b id resolution
    refine ⟨hextends.trans hconclude, fun hid hcollect ha other hother => ?_⟩
    obtain ⟨hbcollect, hgrows⟩ := hextends hcollect
    have hlater := (hconclude hbcollect).2
    rw [conclude_fst] at hother
    rcases mem_resolutions_of_store hother with rfl | hold
    · exact ⟨id, _, (hid.grow hgrows).grow hlater,
        hlater.register_eq_some (hgrows.register_eq_some (register_of_registration hr)), rfl,
        hconstruction⟩
    · exact (h hcollect ha other hold).grow hlater

end Wiring.Container
