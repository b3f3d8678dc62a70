import Wiring.Catalog.Basic
import Wiring.Proofs.Assembly.Complete
import Wiring.Proofs.Assembly.Issued
import Wiring.Proofs.Check.Construction

/-!
What a successful run selected can be emitted if it is listed among the services and its type has a
construction, or nothing constructs it. This holds of whatever is checked in its own right. It fails
in two ways only. A registration whose implementation is open is never checked, and still selected
under its closed service type. And a registration that only stands in for a type is not checked
either: where those that are registered for that type construct another one, its own construction
is never worked out.
-/

namespace Wiring

namespace Container

/-- The registration is listed, and it is a collection or what constructs it is known. -/
def Emits (ctx : Context) (c : Container) (id : RegistrationId) : Prop :=
  ∃ r ∈ c.allServices, c.registration? id = some r ∧ (r.collected.isSome ∨
    (c.resolution? r.resolvedType).isSome ∨ Inert ctx r.toService)

instance (ctx : Context) (c : Container) (id : RegistrationId) : Decidable (c.Emits ctx id) :=
  inferInstanceAs (Decidable (∃ r ∈ c.allServices, _))

/-- The registration constructs an open type: it was declared so, or that type is itself a service
that was asked for. -/
def Opened (count : Nat) (c : Container) (id : RegistrationId) : Prop :=
  ∃ service, c.register[id]? = some service ∧ service.resolvedType.isOpen ∧
    (id < count ∨ ∃ earlier ≤ id, earlier ∈ c.servicesFor service.resolvedType)

/-- The registration stands in for a type that has a constructor, and no declared registration and
no specialization is constructed as that type. -/
def Bypassed (ctx : Context) (count : Nat) (c : Container) (id : RegistrationId) : Prop :=
  ∃ r, c.registration? id = some r ∧ count ≤ id ∧ c.StandsIn ctx id r.toService.plain ∧
    r.collected = none ∧ ¬ Inert ctx r.toService ∧
    ∀ other service, c.IsChecked count other → c.register[other]? = some service →
      service.resolvedType.same r.resolvedType → Inert ctx service

variable {ctx : Context} {count : Nat} {c : Container}

/-- The type of a stand-in has a resolution only if something that is checked constructs it. -/
theorem Bypassed.resolution?_eq_none (hc : c.Indexed)
    (hconstructs : ∀ r ∈ c.resolutions, c.Constructs ctx count r) {r : Registration}
    (h : ∀ other service, c.IsChecked count other → c.register[other]? = some service →
      service.resolvedType.same r.resolvedType → Inert ctx service) :
    c.resolution? r.resolvedType = none := by
  cases hresolution : c.resolution? r.resolvedType with
  | none => rfl
  | some resolution =>
    obtain ⟨hmem, hsame⟩ := hc.resolution?_eq_some_iff.1 hresolution
    obtain ⟨other, service, hchecked, hservice, htype, hconstruction⟩ := hconstructs resolution hmem
    rw [htype] at hsame
    exact absurd (h other service hchecked hservice hsame)
      (not_inert_of_selectConstruction hconstruction)

/-- The origin of a registration of a closed type tells why it is settled, unless it stands in. -/
theorem Origin.isSettled_or_standsIn
    (hspecialized : ∀ id, .specialized id ∈ c.journal → c.IsSettled ctx id) {id : RegistrationId}
    {service : Service} (hid : c.register[id]? = some service) (h : c.Origin ctx id service) :
    c.IsSettled ctx id ∨ c.StandsIn ctx id service := by
  cases h with
  | specialized hjournal _ => exact Or.inl (hspecialized id hjournal)
  | @base closed template type hjournal _ htemplate himplementation _ hservice =>
    left
    obtain ⟨template', htemplate', hsettled⟩ := isSettled_iff.1 (hspecialized closed hjournal)
    obtain rfl := Option.some.inj (htemplate.symm.trans htemplate')
    -- the base is constructed as the specialization is
    have htype : service.resolvedType = template.resolvedType := by
      rw [hservice, Service.resolvedType, Service.resolvedType, himplementation]
      rfl
    have hmember : service.member = template.member := by rw [hservice]; rfl
    refine isSettled_iff.2 ⟨service, hid, ?_⟩
    unfold Inert at hsettled ⊢
    rwa [htype, hmember]
  | standIn h => exact Or.inr h

end Container

open Container

section Success

variable {ctx : Context} {services : List Service} {c : Container}
  (h : (declared ctx services).checkAll ctx = (c, .ok ()))
include h

theorem originates_of_checkAll : c.Originates ctx services.length := by
  refine (kept_of_checkAll h (maintained_originates ctx services.length).kept ⟨?_, ?_⟩).2
  · exact (declared_reachable ctx services).coherent
  · intro id service hcount hid
    have hlt := lt_of_register hid
    rw [declared_size] at hlt
    exact absurd hlt (Nat.not_lt_of_le hcount)

theorem constructs_of_checkAll : ∀ r ∈ c.resolutions, c.Constructs ctx services.length r := by
  have hranged : ∀ id ∈ List.range (declared ctx services).size, ∀ (ok : Bool) (a b : Container),
      Extends a b ∧ (a.IsChecked services.length id → ExtendsConstructed ctx services.length a b) →
        Extends a b ∧ ExtendsConstructed ctx services.length a b := by
    rintro id hid ok a b ⟨hextends, hconstructed⟩
    rw [declared_size] at hid
    exact ⟨hextends, hconstructed (Or.inl (List.mem_range.1 hid))⟩
  have hchecks := Keeps.checkEach (keeps_constructed ctx services.length) hranged
    (declared ctx services)
  rw [checkAll] at h
  rw [h] at hchecks
  refine hchecks.2 (declared_reachable ctx services).enumerablesCollect ?_
  rw [declared, addAll_view (·.resolutions) fun _ _ => rfl]
  exact fun r hr => absurd hr List.not_mem_nil

/-- What is checked in its own right and constructs a closed type is settled. -/
theorem isSettled_of_isChecked {id : RegistrationId} (hid : c.IsChecked services.length id)
    (hclosed : c.isClosed id) : c.IsSettled ctx id := by
  rcases hid with hid | hid
  · exact (hasPassed_of_declared h hid hclosed).settled
  · exact (hasPassed_of_specialized h hid).settled

theorem emits_of_not_opened_of_not_bypassed {id : RegistrationId} (hid : id < c.size)
    (hopened : ¬ c.Opened services.length id) (hbypassed : ¬ c.Bypassed ctx services.length id) :
    c.Emits ctx id := by
  have hcoherent := (reachable_of_checkAll h).coherent
  obtain ⟨r, hr⟩ := registration?_isSome hid
  have hregister := register_of_registration hr
  have horigin (hcount : services.length ≤ id) : c.Origin ctx id r.toService.plain :=
    originates_of_checkAll h id _ hcount hregister
  have hclosed : r.isClosed := by
    by_contra hopen
    refine hopened ⟨_, hregister, by simpa [Service.isClosed, TypeExpr.isClosed] using hopen, ?_⟩
    by_cases hcount : id < services.length
    · exact Or.inl hcount
    · exact Or.inr ((horigin (Nat.le_of_not_lt hcount)).mem_servicesFor hcoherent hregister)
  refine ⟨r, List.mem_filter.2 ⟨List.mem_of_getElem? hr, hclosed⟩, hr, ?_⟩
  have hknown (hsettled : c.IsSettled ctx id) :
      (c.resolution? r.resolvedType).isSome ∨ Inert ctx r.toService := by
    obtain ⟨r', hr', hsettled⟩ := hsettled
    obtain rfl := Option.some.inj (hr.symm.trans hr')
    exact hsettled
  by_cases hcount : id < services.length
  · refine Or.inr (hknown (hasPassed_of_declared h hcount ?_).settled)
    rwa [isClosed, hr]
  have hcount := Nat.le_of_not_lt hcount
  rcases (horigin hcount).isSettled_or_standsIn
    (fun _ hid => (hasPassed_of_specialized h hid).settled) hregister with hsettled | hstandsIn
  · exact Or.inr (hknown hsettled)
  by_contra hunknown
  simp only [not_or, Option.isSome_iff_ne_none, ne_eq, Decidable.not_not] at hunknown
  obtain ⟨hcollected, hresolution, hinert⟩ := hunknown
  refine hbypassed ⟨r, hr, hcount, hstandsIn, hcollected, hinert, ?_⟩
  intro other service hchecked hservice hsame
  obtain ⟨r', hr', rfl⟩ := register_eq_some_iff.1 hservice
  have hotherClosed : c.isClosed other := by
    rw [isClosed, hr']
    exact (TypeExpr.isClosed_congr hsame).trans hclosed
  obtain ⟨r'', hr'', hsettled⟩ := isSettled_of_isChecked h hchecked hotherClosed
  obtain rfl := Option.some.inj (hr'.symm.trans hr'')
  refine hsettled.resolve_left ?_
  rw [← Service.resolvedType_plain, resolution?_congr c hsame, hresolution]
  exact Bool.false_ne_true

theorem not_opened_of_emits {id : RegistrationId} (hemits : c.Emits ctx id) :
    ¬ (c.Opened services.length id ∨ c.Bypassed ctx services.length id) := by
  obtain ⟨r, hlisted, hr, hknown⟩ := hemits
  rintro (⟨service, hservice, hopen, -⟩ | ⟨r', hr', -, -, hcollected, hinert, hothers⟩)
  · obtain rfl := Option.some.inj ((register_of_registration hr).symm.trans hservice)
    have hclosed := (List.mem_filter.1 hlisted).2
    rw [Service.resolvedType_plain] at hopen
    simp [Service.isClosed, TypeExpr.isClosed, hopen] at hclosed
  · obtain rfl := Option.some.inj (hr.symm.trans hr')
    have hresolution := Bypassed.resolution?_eq_none (reachable_of_checkAll h).indexed
      (constructs_of_checkAll h) hothers
    simp [hcollected, hresolution, hinert] at hknown

end Success

/-- After a run that succeeds, what was selected, or collected in what was selected, is registered,
and it can be emitted exactly if it neither constructs an open type nor stands in for a type that
nothing else constructs. -/
theorem assemble_emits_iff (ctx : Context) (provider : TypeExpr)
    (h : (assemble ctx provider).result = .ok ()) :
    ∃ services, ctx.program.declaredServices provider = .ok services ∧
      (assemble ctx provider).container.IdsIssued ∧
      ∀ resolution ∈ (assemble ctx provider).container.resolutions, ∀ p ∈ resolution.parameters,
        ∀ id target, p.outcome.selected? = some id →
          (assemble ctx provider).container.Supplies id target →
          ((assemble ctx provider).container.Emits ctx target ↔
            ¬ ((assemble ctx provider).container.Opened services.length target ∨
              (assemble ctx provider).container.Bypassed ctx services.length target)) := by
  obtain ⟨services, hservices, hchecked, -⟩ := assemble_ok h
  generalize (assemble ctx provider).container = c at hchecked ⊢
  have hissued := idsIssued_of_checkAll hservices hchecked
  refine ⟨services, hservices, hissued, ?_⟩
  intro resolution hresolution p hp id target hid hsupplies
  have htarget : target < c.size := by
    obtain ⟨r, hr, hsupplied⟩ := hsupplies
    cases hcollected : r.collected with
    | none =>
      rw [hcollected] at hsupplied
      rw [hsupplied]
      exact registration?_eq_some_lt hr
    | some ids =>
      rw [hcollected] at hsupplied
      exact hissued.collected r (List.mem_of_getElem? hr) ids hcollected target hsupplied
  constructor
  · exact not_opened_of_emits hchecked
  · intro hfine
    rw [not_or] at hfine
    exact emits_of_not_opened_of_not_bypassed hchecked htarget hfine.1 hfine.2

namespace Feeds

def user : TypeExpr := ⟨.classType, "app::User", [], false⟩
def recording : TypeExpr := ⟨.classType, "app::Recording", [], false⟩
def replay : TypeExpr := ⟨.classType, "app::Replay", [], false⟩
def player : TypeExpr := ⟨.classType, "app::Player", [], false⟩
def editor : TypeExpr := ⟨.classType, "app::Editor", [], false⟩
def provider : TypeExpr := ⟨.classType, "app::Provider", [], false⟩
def entity : TypeExpr := ⟨.parameter, "T", [], false⟩

def feed (entry : TypeExpr) : TypeExpr := ⟨.interfaceType, "app::Feed", [entry], false⟩
def stream (entry : TypeExpr) : TypeExpr := ⟨.classType, "app::Stream", [entry], false⟩

/-- A player and an editor of the feed of users, whose stream is registered twice, each time as
something else. -/
def catalog : Catalog := .ofDefinitions [
  .declaring (feed entity) [] [],
  { Definition.declaring (stream entity) [] [] with bases := [feed entity] },
  { Definition.built recording [] with bases := [stream user] },
  { Definition.built replay [] with bases := [stream user] },
  .built player [⟨"feed", feed user, [], none⟩],
  .built editor [⟨"feed", feed user, [], none⟩],
  .declaring provider [] [
    .dependency .singleton (feed entity) (some (stream entity)) none,
    .dependency .singleton (stream user) (some recording) none,
    .dependency .singleton (stream user) (some replay) none,
    .dependency .singleton player none none,
    .dependency .singleton editor none none]]

def context : Context := { program := catalog.program }

end Feeds

/-- The player took the recording and left the feed registered as a stream, which is what the editor
then selects and nothing constructs. -/
theorem editor_bypassed :
    (assemble Feeds.context Feeds.provider).result = .ok () ∧
      ¬ (assemble Feeds.context Feeds.provider).container.Emits Feeds.context 5 ∧
      ∃ count,
        (assemble Feeds.context Feeds.provider).container.Bypassed Feeds.context count 5 := by
  have hselected : ∃ resolution ∈ (assemble Feeds.context Feeds.provider).container.resolutions,
      ∃ p ∈ resolution.parameters, p.outcome.selected? = some 5 := by decide +kernel
  have hsupplies : (assemble Feeds.context Feeds.provider).container.Supplies 5 5 :=
    supplies_self (by decide +kernel)
  have hclosed : (assemble Feeds.context Feeds.provider).container.isClosed 5 := by decide +kernel
  have hemits : ¬ (assemble Feeds.context Feeds.provider).container.Emits Feeds.context 5 := by
    decide +kernel
  obtain ⟨services, -, -, hiff⟩ := assemble_emits_iff Feeds.context Feeds.provider rfl
  obtain ⟨resolution, hresolution, p, hp, hid⟩ := hselected
  have hcause := hiff resolution hresolution p hp 5 5 hid hsupplies
  refine ⟨rfl, hemits, services.length, ?_⟩
  rcases Classical.not_not.1 (mt hcause.2 hemits) with ⟨service, hservice, hopen, -⟩ | hbypassed
  · obtain ⟨r, hr, rfl⟩ := register_eq_some_iff.1 hservice
    rw [isClosed, hr] at hclosed
    rw [Service.resolvedType_plain] at hopen
    simp [Service.isClosed, TypeExpr.isClosed, hopen] at hclosed
  · exact hbypassed

namespace Reading

def reader : TypeExpr := ⟨.classType, "app::Reader", [], false⟩
def provider : TypeExpr := ⟨.classType, "app::Provider", [], false⟩
def entity : TypeExpr := ⟨.parameter, "T", [], false⟩
def store : TypeExpr := .interface "app::Store"

def repository (stored : TypeExpr) : TypeExpr := ⟨.classType, "app::Repository", [stored], false⟩

/-- The store is implemented by repositories of nothing in particular. -/
def catalog : Catalog := .ofDefinitions [
  .declaring store [] [],
  { Definition.built (repository entity) [] with bases := [store] },
  .built reader [⟨"store", store, [], none⟩],
  .declaring provider [] [
    .dependency .singleton store (some (repository entity)) none,
    .dependency .singleton reader none none]]

def context : Context := { program := catalog.program }

end Reading

/-- The run succeeds, though the reader selected a repository of which nobody knows what it
stores. -/
theorem reader_selects_open :
    (assemble Reading.context Reading.provider).result = .ok () ∧
      (∃ resolution ∈ (assemble Reading.context Reading.provider).container.resolutions,
        resolution.type.isClosed ∧ ∃ p ∈ resolution.parameters, p.outcome.selected? = some 0) ∧
      (assemble Reading.context Reading.provider).container.Supplies 0 0 ∧
      (assemble Reading.context Reading.provider).container.isClosed 0 = false ∧
      ¬ (assemble Reading.context Reading.provider).container.Emits Reading.context 0 :=
  ⟨rfl, by decide +kernel, supplies_self (by decide +kernel), by decide +kernel, by decide +kernel⟩

end Wiring
