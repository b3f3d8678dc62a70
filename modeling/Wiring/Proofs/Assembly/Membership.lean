import Wiring.Proofs.Assembly.Emission
import Wiring.Proofs.Check.Membership

/-!
What the collections of a run hold. A run declares its services before it makes a collection, so
whatever of an element type comes later comes from checks: closed types with their bases, which are
put into the collection, shapes of other collections, and aliases, which are not. A shape leads to
an array, which nobody constructs, so a collection serves as that array only through the shapes of
one family, and those stand in a row.
-/

namespace Wiring

open Container

theorem declared_enrolled (ctx : Context) (services : List Service) :
    (declared ctx services).Enrolled ctx where
  arranged := (declared_reachable ctx services).arranged
  placed closed hclosed := by
    rw [declared, addAll_view (·.journal) fun _ _ => rfl] at hclosed
    cases hclosed
  enrolls element family hfamily := by
    rw [declared, addAll_view (·.families) fun _ _ => rfl] at hfamily
    cases hfamily

namespace Container

variable {ctx : Context} {c : Container} {element : TypeExpr} {family : Family}
  {id : RegistrationId} {service : Service}

/-- A shape that names or constructs the array of a type lies in the family of that type. -/
theorem Coherent.mem_ids_of_array (hc : c.Coherent ctx)
    (hfamily : c.families.get? element = some family) (hid : c.IsShape id)
    (hservice : c.register[id]? = some service)
    (hsame : service.type.same (TypeExpr.arrayOf element) ∨
      service.resolvedType.same (TypeExpr.arrayOf element)) : id ∈ family.ids := by
  obtain ⟨other, made, hmade, hmem⟩ := hid
  obtain ⟨other', hother, hshapes⟩ := hc.shaped other made hmade
  obtain ⟨shape, hshape, hregister, -⟩ := hshapes.of_mem hmem
  obtain rfl := Option.some.inj (hservice.symm.trans hregister)
  have harray : (TypeExpr.arrayOf other').same (TypeExpr.arrayOf element) := by
    rcases hsame with htype | hresolved
    · simp only [shapesOf, List.mem_cons, List.not_mem_nil, or_false] at hshape
      rcases hshape with rfl | rfl | rfl | rfl
      · exact htype
      all_goals cases htype
    · rwa [resolvedType_of_mem_shapesOf hshape] at hresolved
  have helement : other'.same element := by
    simpa [TypeExpr.arrayOf, TypeExpr.same, TypeExpr.sameAll] using harray
  rw [TypeExpr.same_comm] at hother
  rw [TypeMap.get?_congr c.families (TypeExpr.same_trans hother helement), hfamily] at hmade
  obtain rfl := Option.some.inj hmade
  exact hmem

/-- The four shapes of a family stand in a row, with no array of another family among them. -/
theorem Coherent.le_of_mem_ids (hc : c.Coherent ctx)
    (hfamily : c.families.get? element = some family) {other : TypeExpr} {made : Family}
    (hmade : c.families.get? other = some made) {first : RegistrationId}
    (hfirst : first ∈ made.ids) (hid : id ∈ made.ids) (hle : family.array ≤ id) :
    family.array ≤ first := by
  obtain ⟨_, -, hshapes⟩ := hc.shaped element family hfamily
  obtain ⟨_, -, hmadeShapes⟩ := hc.shaped other made hmade
  rw [hmadeShapes.mem_ids] at hfirst hid
  by_contra hlt
  have hmem : family.array ∈ made.ids := by
    rw [hmadeShapes.mem_ids]
    grind
  -- of the shapes of a family only the array, the first one, has no implementation
  obtain ⟨i, shape, hplace, hshape, hregister⟩ := hmadeShapes.shape_of_mem hmem
  obtain rfl := Option.some.inj ((hshapes.shapes 0 _ rfl).symm.trans hregister)
  match i with
  | 0 => exact hlt (hplace ▸ hfirst.1)
  | 1 | 2 | 3 => cases congrArg (Option.map Service.implementation) hshape
  | i + 4 => cases hshape

/-- No check passes for an array. -/
theorem HasPassed.not_array (hpassed : c.HasPassed ctx id) (hid : c.register[id]? = some service) :
    ¬ service.resolvedType.same (TypeExpr.arrayOf element) := by
  obtain ⟨r, hr, hnamed⟩ := hpassed.named
  obtain rfl := Option.some.inj (hid.symm.trans (register_of_registration hr))
  intro hsame
  have hkind : r.resolvedType.kind = .array := TypeExpr.kind_eq_of_same hsame
  rw [TypeExpr.isNamed, hkind] at hnamed
  cases hnamed

end Container

section Success

variable {ctx : Context} {services : List Service} {c : Container}
  (h : (declared ctx services).checkAll ctx = (c, .ok ()))
include h

/-- Where nothing but shapes is registered for the array of a type, whatever serves as that array
comes no earlier than one of them, and is no specialization. -/
theorem first_of_servesAs (henrolled : c.Enrolled ctx) {element : TypeExpr} {family : Family}
    (hfamily : c.families.get? element = some family)
    (hclosed : (TypeExpr.arrayOf element).isClosed)
    (honly : ∀ id ∈ c.servicesFor (TypeExpr.arrayOf element), c.IsShape id)
    {member : RegistrationId} (hserves : c.ServesAs (TypeExpr.arrayOf element) member) :
    .specialized member ∉ c.journal ∧ ∃ first ∈ family.ids, first ≤ member := by
  have hcoherent := henrolled.arranged.coherent
  obtain ⟨service, hservice, hsame⟩ := hserves
  have hlisted {id : RegistrationId} {other : Service} (hid : c.register[id]? = some other)
      (htype : other.type.same (TypeExpr.arrayOf element)) : id ∈ family.ids := by
    have hshape := honly id ((hcoherent.listed _ id).2 ⟨other, hid, htype⟩)
    exact hcoherent.mem_ids_of_array hfamily hshape hid (Or.inl htype)
  have hspecialized {id : RegistrationId} {other : Service} (hid : c.register[id]? = some other)
      (hjournal : .specialized id ∈ c.journal) :
      ¬ other.resolvedType.same (TypeExpr.arrayOf element) :=
    (hasPassed_of_specialized h hjournal).not_array hid
  have hunspecialized : .specialized member ∉ c.journal := by
    intro hjournal
    obtain ⟨template, hplaced⟩ := henrolled.placed member hjournal
    obtain rfl := Option.some.inj (hservice.symm.trans hplaced.registered)
    refine hspecialized hservice hjournal ?_
    rw [hplaced.resolvedType, or_self] at hsame
    rwa [hplaced.resolvedType]
  refine ⟨hunspecialized, ?_⟩
  rcases hsame with htype | hresolved
  · exact ⟨member, hlisted hservice htype, Nat.le_refl _⟩
  by_cases hcount : member < services.length
  · have hclosed : c.isClosed member := by
      rw [isClosed_of_register hservice]
      exact (TypeExpr.isClosed_congr hresolved).trans hclosed
    exact absurd hresolved ((hasPassed_of_declared h hcount hclosed).not_array hservice)
  cases originates_of_checkAll h member service (Nat.le_of_not_lt hcount) hservice with
  | specialized hjournal _ => exact absurd hjournal hunspecialized
  | base hjournal _ htemplate himplementation _ hmirror =>
    refine absurd ?_ (hspecialized htemplate hjournal)
    rw [hmirror] at hresolved
    rwa [Service.resolvedType, himplementation]
  | standIn hstands =>
    cases hstands with
    | redirect _ himplementation hlt hearlier htype =>
      refine ⟨_, hlisted hearlier (TypeExpr.same_trans htype ?_), Nat.le_of_lt hlt⟩
      rwa [Service.resolvedType, himplementation] at hresolved
    | shape hshape =>
      exact ⟨member, hcoherent.mem_ids_of_array hfamily hshape hservice (Or.inr hresolved),
        Nat.le_refl _⟩

/-- A shape of another collection that was made later is missed where its array is registered by
shapes only. -/
theorem shape_missed (henrolled : c.Enrolled ctx) {element : TypeExpr} {family : Family}
    (hfamily : c.families.get? element = some family) {id : RegistrationId} {service : Service}
    (hid : c.register[id]? = some service) (hclosed : service.isClosed) (hshape : c.IsShape id)
    (honly : ∀ other ∈ c.servicesFor service.resolvedType, c.IsShape other)
    (hle : family.array ≤ id) : ¬ c.Holds family service.resolvedType := by
  have hcoherent := henrolled.arranged.coherent
  rintro ⟨member, hmember, hserves⟩
  obtain ⟨other, made, hmade, hmem⟩ := hshape
  obtain ⟨other', hother, hshapes⟩ := hcoherent.shaped other made hmade
  obtain ⟨shape, hshape, hregister, -⟩ := hshapes.of_mem hmem
  obtain rfl := Option.some.inj (hid.symm.trans hregister)
  have harray := resolvedType_of_mem_shapesOf hshape
  rw [Service.isClosed] at hclosed
  rw [harray] at hclosed honly hserves
  rw [← TypeMap.get?_congr c.families hother] at hmade
  obtain ⟨hunspecialized, first, hfirst, hearlier⟩ :=
    first_of_servesAs h henrolled hmade hclosed honly hserves
  have hlt := ((henrolled.enrolls element family hfamily).made member hmember).resolve_right
    hunspecialized
  have hfrom := hcoherent.le_of_mem_ids hfamily hmade hfirst hmem hle
  exact Nat.lt_irrefl _ (Nat.lt_of_le_of_lt (Nat.le_trans hfrom hearlier) hlt)

end Success

/-- After a run that succeeds the collection of an element type has nothing for a registration of
that type exactly if the registration came after it and not with a specialization. If it is a shape
of another collection, then nothing that is collected serves as its array either; and nothing does
where the array is registered by shapes only. -/
theorem assemble_missed_iff (ctx : Context) (provider : TypeExpr)
    (h : (assemble ctx provider).result = .ok ()) (element : TypeExpr) (family : Family)
    (hfamily : (assemble ctx provider).container.families.get? element = some family)
    (id : RegistrationId) (hid : id ∈ (assemble ctx provider).container.servicesFor element)
    (r : Registration) (hr : (assemble ctx provider).container.registration? id = some r)
    (hclosed : r.isClosed) :
    (¬ (assemble ctx provider).container.Holds family r.resolvedType ↔
      family.array ≤ id ∧ ¬ (assemble ctx provider).container.FromSpecialization ctx id ∧
        ((assemble ctx provider).container.IsShape id →
          ∀ member ∈ (assemble ctx provider).container.elements family,
            ¬ (assemble ctx provider).container.ServesAs r.resolvedType member)) ∧
      ((assemble ctx provider).container.IsShape id →
        (∀ other ∈ (assemble ctx provider).container.servicesFor r.resolvedType,
          (assemble ctx provider).container.IsShape other) →
        (¬ (assemble ctx provider).container.Holds family r.resolvedType ↔
          family.array ≤ id)) := by
  obtain ⟨services, -, hchecked, -⟩ := assemble_ok h
  generalize (assemble ctx provider).container = c at hchecked hfamily hid hr ⊢
  have henrolled : c.Enrolled ctx :=
    kept_of_checkAll hchecked (maintained_enrolled ctx).kept (declared_enrolled ctx services)
  obtain ⟨service, hservice, htype⟩ := (henrolled.arranged.coherent.listed element id).1 hid
  have hregister := register_of_registration hr
  obtain rfl := Option.some.inj (hservice.symm.trans hregister)
  have hlate := henrolled.late_of_missed hfamily hregister htype hclosed
  have hshapes := shape_missed hchecked henrolled hfamily hregister hclosed
  refine ⟨⟨fun hmissed => ⟨(hlate hmissed).1, (hlate hmissed).2,
    fun _ member hmember hserves => hmissed ⟨member, hmember, hserves⟩⟩, ?_⟩,
    fun hshape honly => ⟨fun hmissed => (hlate hmissed).1, hshapes hshape honly⟩⟩
  rintro ⟨hle, hplain, hunserved⟩
  by_cases hshape : c.IsShape id
  · rintro ⟨member, hmember, hserves⟩
    exact hunserved hshape member hmember hserves
  · exact (henrolled.missed_iff hfamily hregister htype hclosed hshape).2 ⟨hle, hplain⟩

namespace Listings

def user : TypeExpr := ⟨.classType, "app::User", [], false⟩
def listing : TypeExpr := ⟨.classType, "app::Listing", [], false⟩
def queries : TypeExpr := ⟨.classType, "app::Queries", [], false⟩
def provider : TypeExpr := ⟨.classType, "app::Provider", [], false⟩
def entity : TypeExpr := ⟨.parameter, "T", [], false⟩

def store (stored : TypeExpr) : TypeExpr := ⟨.interfaceType, "app::Store", [stored], false⟩
def repository (stored : TypeExpr) : TypeExpr := ⟨.classType, "app::Repository", [stored], false⟩

/-- The repository of users is declared, and a store only in general. The listing asks for all
stores of users before the queries ask for one. -/
def catalog : Catalog := .ofDefinitions [
  .built user [],
  .declaring (store entity) [] [],
  { Definition.built (repository entity) [] with bases := [store entity] },
  .built listing [⟨"stores", Settings.enumerableOf {} (store user), [], none⟩],
  .built queries [⟨"users", store user, [], none⟩],
  .declaring provider [] [
    .dependency .singleton (store entity) (some (repository entity)) none,
    .dependency .singleton (repository user) none none,
    .dependency .singleton listing none none,
    .dependency .singleton queries none none]]

def context : Context := { program := catalog.program }

def stores : Family := ⟨4, 5, 6, 7⟩

/-- The store of users, an alias of the repository, which the queries got. -/
theorem alias_registered :
    ∃ r, (assemble context provider).container.registration? 8 = some r ∧
      r.resolvedType = repository user := by
  have hr : ((assemble context provider).container.registration? 8).map (·.resolvedType) =
      some (repository user) := by decide +kernel
  exact Option.map_eq_some_iff.1 hr

theorem missed : ¬ (assemble context provider).container.Holds stores (repository user) := by
  have hempty : (assemble context provider).container.elements stores = [] := by decide +kernel
  rintro ⟨member, hmember, -⟩
  rw [hempty] at hmember
  cases hmember

end Listings

/-- The alias came after the collection of the stores, and not with a specialization. -/
theorem listings_alias_late :
    ¬ (assemble Listings.context Listings.provider).container.FromSpecialization
      Listings.context 8 := by
  obtain ⟨r, hr, htype⟩ := Listings.alias_registered
  refine ((assemble_missed_iff Listings.context Listings.provider (by decide +kernel)
    (Listings.store Listings.user) Listings.stores (by decide +kernel) 8 (by decide +kernel) r hr
    ?_).1.1 ?_).2.1
  · rw [Service.isClosed, htype]
    decide
  · rw [htype]
    exact Listings.missed

/-- The run succeeds, and the collection of all stores of users holds nothing that serves as the one
store of users there is. -/
theorem listings_store_missed :
    (assemble Listings.context Listings.provider).result = .ok () ∧
      ∃ element family id r,
        (assemble Listings.context Listings.provider).container.families.get? element =
          some family ∧
        id ∈ (assemble Listings.context Listings.provider).container.servicesFor element ∧
        (assemble Listings.context Listings.provider).container.registration? id = some r ∧
        r.isClosed ∧
        ¬ (assemble Listings.context Listings.provider).container.Holds family r.resolvedType := by
  obtain ⟨r, hr, htype⟩ := Listings.alias_registered
  refine ⟨by decide +kernel, Listings.store Listings.user, Listings.stores, 8, r,
    by decide +kernel, by decide +kernel, hr, ?_, ?_⟩
  · rw [Service.isClosed, htype]
    decide
  · rw [htype]
    exact Listings.missed

end Wiring
