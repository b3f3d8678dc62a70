import Wiring.Proofs.Check.Obtain

/-!
The updates that a check consists of keep a container regular: those that the requests of an orderly
run come to.
-/

namespace Wiring.Container

open Forecast

variable {ctx : Context} {services : List Service} {a b c : Container} {id : RegistrationId}
  {target : TypeExpr} {found : Answer} {service template : Service}

namespace OnlyEnumerablesCollect

theorem of_eq (h : a.OnlyEnumerablesCollect) (hregistrations : b.registrations = a.registrations)
    (hfamilies : b.families = a.families) : b.OnlyEnumerablesCollect := by
  unfold OnlyEnumerablesCollect IsEnumerable registration? at h ⊢
  rw [hregistrations, hfamilies]
  exact h

theorem add (h : c.OnlyEnumerablesCollect) (hservice : service.collected = none) :
    (c.add ctx service).OnlyEnumerablesCollect := by
  intro id r hr hcollected
  rw [registration?_add] at hr
  split at hr
  · cases hr
    rw [show (c.registrationOf ctx service).collected = none from hservice] at hcollected
    cases hcollected
  · exact h id r hr hcollected

theorem enlist (h : c.OnlyEnumerablesCollect) (element : TypeExpr)
    (member : RegistrationId) : (c.enlist element member).OnlyEnumerablesCollect := by
  cases hfamily : c.families.get? element with
  | none =>
    unfold Container.enlist
    rwa [hfamily]
  | some family =>
    intro id r hr hcollected
    unfold IsEnumerable
    rw [registration?_enlist hfamily] at hr
    rw [enlist_families]
    obtain ⟨old, hold, rfl⟩ := Option.map_eq_some_iff.1 hr
    split at hcollected
    · next heq => exact ⟨element, family, hfamily, heq⟩
    · exact h id old hold hcollected

theorem addSpecialization (h : c.OnlyEnumerablesCollect)
    (hservice : service.collected = none) :
    (c.addSpecialization ctx service).OnlyEnumerablesCollect :=
  addSpecialization_induct c service ((h.add hservice).of_eq rfl rfl)
    (fun _ _ _ hb => hb.add hservice) fun _ element hb => hb.enlist element _

theorem addFamily (h : c.OnlyEnumerablesCollect) {element : TypeExpr}
    (ids : List RegistrationId) (hnew : c.families.get? element = none) :
    (c.addFamily ctx element ids).OnlyEnumerablesCollect := by
  have hgrows := grows_addFamily c ctx ids hnew
  intro id r hr hcollected
  by_cases hlt : id < c.size
  · obtain ⟨old, hold, hcollects⟩ := hgrows.collects_of_lt hlt hr hcollected
    obtain ⟨other, family, hfamily, henumerable⟩ := h id old hold hcollects
    exact ⟨other, family, hgrows.families other family hfamily, henumerable⟩
  · exact ⟨element, _, families_addFamily_self c ctx element ids,
      (eq_last_of_collects (Nat.le_of_not_lt hlt) hr hcollected).symm⟩

end OnlyEnumerablesCollect

/-- A specialization and its bases are registered. -/
theorem Placed.add_lt {closed i : Nat} (h : c.Placed ctx closed template)
    (hi : i ≤ (servedBases ctx template.type).length) : closed + i < c.size := by
  cases i with
  | zero => exact lt_of_register h.registered
  | succ i =>
    have hmirror := h.bases i _ (List.getElem?_eq_getElem hi)
    rw [Nat.add_comm i, ← Nat.add_assoc]
    exact lt_of_register hmirror

theorem Gathers.congr {element other : TypeExpr} {ids : List RegistrationId}
    (h : c.Gathers ctx services element ids) (hsame : element.same other) :
    c.Gathers ctx services other ids where
  serves id hid := by
    obtain ⟨service, hservice, hserves⟩ := h.serves id hid
    rw [TypeExpr.same_iff.1 hsame] at hserves
    exact ⟨service, hservice, hserves⟩
  members member hmember := by
    rw [← membersOf_congr hsame] at hmember
    exact h.members member hmember
  joined closed template hclosed htemplate hjoins := by
    rw [TypeExpr.same_comm] at hsame
    exact h.joined closed template hclosed htemplate (hjoins.congr hsame)

namespace Regular

/-- A container stays regular when what is added behind the others arises as it should. -/
theorem extend (h : a.Regular ctx services) (harranged : b.Arranged ctx) (hindexed : b.Indexed)
    (hgrows : a.Grows b) (hcollects : b.OnlyEnumerablesCollect)
    (hexplains : ∀ resolution ∈ b.resolutions, b.Explains ctx services resolution)
    (hspecialized : ∀ closed, .specialized closed ∈ b.journal → .specialized closed ∈ a.journal ∨
      ∃ template, b.Placed ctx closed template ∧ Closing ctx services template ∧
        ∀ i ≤ (servedBases ctx template.type).length, ¬ b.IsShape (closed + i))
    (harises : ∀ id service, a.size ≤ id → b.register[id]? = some service →
      ∃ found, b.Arises ctx services found id service)
    (hfamilies : ∀ element family, b.families.get? element = some family →
      a.families.get? element = some family ∨ a.size ≤ family.array ∧
        ∃ target, Asks ctx services target ∧
          answer ctx services none target = .collection element.unannotated)
    (hgathers : ∀ element family, b.families.get? element = some family →
      b.Gathers ctx services element (b.elements family)) :
    b.Regular ctx services where
  arranged := harranged
  indexed := hindexed
  heads := by
    refine List.prefix_iff_getElem?.2 fun id hid => ?_
    have hlt : id < services.length := hid
    exact hgrows.register_eq_some
      ((h.register_of_lt hlt).trans (List.getElem?_eq_getElem hlt))
  collects := hcollects
  placed closed hclosed := by
    rcases hspecialized closed hclosed with hold | hnew
    · obtain ⟨template, hplaced, hclosing, hshapes⟩ := h.placed closed hold
      refine ⟨template, hplaced.grow hgrows, hclosing, fun i hi => ?_⟩
      exact hgrows.not_isShape (hplaced.add_lt hi) (hshapes i hi)
    · exact hnew
  arises id service hle hid := by
    by_cases hlt : id < a.size
    · obtain ⟨found, ha⟩ := h.arises id service hle (hgrows.register_of_lt hlt hid)
      exact ⟨found, ha.grow hlt hgrows⟩
    · exact harises id service (Nat.le_of_not_lt hlt) hid
  behind element family hfamily := by
    rcases hfamilies element family hfamily with hold | ⟨hle, -⟩
    · exact h.behind element family hold
    · exact Nat.le_trans h.length_le hle
  asked element family hfamily := by
    rcases hfamilies element family hfamily with hold | ⟨-, hasked⟩
    · exact h.asked element family hold
    · exact hasked
  gathers := hgathers
  explains := hexplains

/-- A collection gathers what it gathered while nothing is specialized. -/
theorem gathers_grow (h : a.Regular ctx services) {element : TypeExpr} {ids : List RegistrationId}
    (hgathers : a.Gathers ctx services element ids) (hgrows : a.Grows b)
    (hspecialized : ∀ closed, .specialized closed ∈ b.journal → .specialized closed ∈ a.journal) :
    b.Gathers ctx services element ids where
  serves id hid := by
    obtain ⟨service, hservice, hserves⟩ := hgathers.serves id hid
    exact ⟨service, hgrows.register_eq_some hservice, hserves⟩
  members member hmember := by
    obtain ⟨id, hid, service, hservice, hleads⟩ := hgathers.members member hmember
    exact ⟨id, hid, service, hgrows.register_eq_some hservice, hleads⟩
  joined closed template hclosed htemplate hjoins := by
    have hold := hspecialized closed hclosed
    obtain ⟨other, hplaced, -⟩ := h.placed closed hold
    have hlt := lt_of_register hplaced.registered
    exact hgathers.joined closed template hold (hgrows.register_of_lt hlt htemplate) hjoins

/-- The collections of a container keep what they gather while nothing is specialized and none is
made. -/
theorem gathers_of_eq (h : a.Regular ctx services) (hgrows : a.Grows b)
    (hspecialized : ∀ closed, .specialized closed ∈ b.journal → .specialized closed ∈ a.journal)
    {element : TypeExpr} {family : Family} (hfamily : a.families.get? element = some family)
    (hkept : b.registration? family.enumerable = a.registration? family.enumerable) :
    b.Gathers ctx services element (b.elements family) := by
  rw [elements_congr hkept]
  exact h.gathers_grow (h.gathers element family hfamily) hgrows hspecialized

theorem explains_of_eq (h : a.Regular ctx services) (hgrows : a.Grows b)
    (hresolutions : b.resolutions = a.resolutions) :
    ∀ resolution ∈ b.resolutions, b.Explains ctx services resolution := by
  rw [hresolutions]
  exact fun resolution hresolution => (h.explains resolution hresolution).grow hgrows

/-- Nothing but remarks and resolutions is new. -/
theorem restate (h : a.Regular ctx services) (hrestates : a.Restates b) (hindexed : b.Indexed)
    (hexplains : ∀ resolution ∈ b.resolutions, b.Explains ctx services resolution) :
    b.Regular ctx services := by
  have hsize : b.size = a.size := congrArg List.length hrestates.registrations
  refine h.extend ((maintained_arranged ctx).congr hrestates h.arranged) hindexed hrestates.grows
    (h.collects.of_eq hrestates.registrations hrestates.families) hexplains
    (fun closed hclosed => Or.inl (hrestates.specialized closed hclosed)) ?_ ?_ ?_
  · intro id service hle hid
    rw [← hsize] at hle
    exact absurd (lt_of_register hid) (Nat.not_lt_of_le hle)
  · intro element family hfamily
    rw [hrestates.families] at hfamily
    exact Or.inl hfamily
  · intro element family hfamily
    rw [hrestates.families] at hfamily
    refine h.gathers_of_eq hrestates.grows hrestates.specialized hfamily ?_
    rw [registration?, hrestates.registrations, registration?]

theorem note (h : c.Regular ctx services) {event : Event} (hremark : event.isRemark) :
    (c.note event).Regular ctx services := by
  have hrestates : c.Restates (c.note event) :=
    restates_note c fun id hid => by rw [hid] at hremark; cases hremark
  exact h.restate hrestates (h.indexed.of_eq rfl rfl) (h.explains_of_eq hrestates.grows rfl)

theorem nest (h : c.Regular ctx services) (depth : Nat) :
    ({ c with specializationDepth := depth } : Container).Regular ctx services :=
  h.restate (restates_depth c depth) (h.indexed.of_eq rfl rfl)
    (h.explains_of_eq (restates_depth c depth).grows rfl)

/-- What a check concludes with is explained by the service that it checked. -/
theorem conclude (h : c.Regular ctx services) (id : RegistrationId) {resolution : Resolution}
    (hresolution : c.Explains ctx services resolution) :
    (conclude ctx c id resolution).1.Regular ctx services := by
  have hrestates := restates_conclude ctx c id resolution
  refine h.restate hrestates ?_ fun other hother => ?_
  · rw [conclude_fst]
    exact (h.indexed.store resolution).of_eq rfl rfl
  · refine Explains.grow ?_ hrestates.grows
    rw [conclude_fst] at hother
    rcases mem_resolutions_of_store hother with rfl | hold
    · exact hresolution
    · exact h.explains other hold

/-- A name for a closed type is added for a request that is closed to it. -/
theorem redirect (h : c.Regular ctx services) {source : Registration}
    (hopens : c.Opens ctx target source)
    (hold : c.underKey source.key (c.servicesFor (closedType target source)) ≠ [])
    (hother : ¬ (closedType target source).same target) (hasks : Asks ctx services target)
    (htemplate : template? ctx services target = some (closedOver target source)) :
    (c.add ctx (aliasOf target (closedType target source) source)).Regular ctx services := by
  let added := aliasOf target (closedType target source) source
  have hgrows := grows_add c ctx added
  have hkey : source.key = none := hopens.key_eq_none h.arranged.coherent
  have hplain : added.plain = redirectOf target (closedOver target source) := by
    simp [added, aliasOf, Service.plain, redirectOf, closedOver, hkey]
  refine h.extend (h.arranged.add added) (h.indexed.of_eq rfl rfl) hgrows
    (h.collects.add rfl) (h.explains_of_eq hgrows rfl)
    (fun _ hclosed => Or.inl hclosed) ?_ (fun _ _ hfamily => Or.inl hfamily) ?_
  · intro id service hle hid
    rw [register_add_eq] at hid
    split at hid
    · next hlast =>
      subst hlast
      obtain rfl := Option.some.inj hid
      rw [hplain]
      obtain ⟨earlier, hearlier⟩ := List.exists_mem_of_ne_nil _ hold
      obtain ⟨existing, hexisting, hexistingType, hexistingKey⟩ :=
        (mem_underKey_servicesFor h.arranged.coherent.listed).1 hearlier
      refine ⟨_, .redirect hasks htemplate hother ?_ ?_ (lt_of_register hexisting)
        (hgrows.register_eq_some hexisting) (hexistingKey.trans hkey) hexistingType⟩
      · exact fun hshape => Nat.lt_irrefl _ (h.arranged.coherent.lt_of_isShape hshape)
      · intro before hlt other hbefore htype
        have hmem : before ∈ c.servicesFor target := (h.arranged.coherent.listed _ _).2
          ⟨other, hgrows.register_of_lt hlt hbefore, htype⟩
        rw [hopens.unserved] at hmem
        cases hmem
    · exact absurd (lt_of_register hid) (Nat.not_lt_of_le hle)
  · intro element family hfamily
    refine h.gathers_of_eq hgrows (fun _ hclosed => hclosed) hfamily ?_
    rw [registration?_add, if_neg (Nat.ne_of_lt (h.arranged.coherent.enumerable_lt hfamily))]

/-- A specialization is put into the collections that it belongs to. -/
theorem gathers_addSpecialization (h : c.Regular ctx services)
    (hclosing : Closing ctx services template) {element : TypeExpr} {family : Family}
    (hfamily : c.families.get? element = some family)
    (hgrows : c.Grows (c.addSpecialization ctx template))
    (hregister : (c.addSpecialization ctx template).register[c.size]? = some template)
    (hspecialized : ∀ closed, .specialized closed ∈ (c.addSpecialization ctx template).journal →
      .specialized closed ∈ c.journal ∨ closed = c.size) :
    (c.addSpecialization ctx template).Gathers ctx services element
      ((c.addSpecialization ctx template).elements family) := by
  have hgathers := h.gathers element family hfamily
  have hmem {member : RegistrationId} :
      member ∈ (c.addSpecialization ctx template).elements family ↔ _ :=
    mem_elements_addSpecialization h.arranged hfamily template
  have hunannotated := TypeExpr.same_unannotated element
  constructor
  case serves =>
    intro id hid
    rcases hmem.1 hid with hold | ⟨rfl, hconcerns⟩
    · obtain ⟨service, hservice, hserves⟩ := hgathers.serves id hold
      exact ⟨service, hgrows.register_eq_some hservice, hserves⟩
    · refine ⟨template, hregister, ?_⟩
      rcases hconcerns with htype | ⟨base, hbase, htype⟩
      · exact .joined (.closed hclosing) (TypeExpr.same_trans htype hunannotated)
          (.closed hclosing)
      · exact .joined (.base hclosing hbase) (TypeExpr.same_trans htype hunannotated)
          (.closed hclosing)
  case members =>
    intro member hmember
    obtain ⟨id, hid, service, hservice, hleads⟩ := hgathers.members member hmember
    exact ⟨id, hmem.2 (Or.inl hid), service, hgrows.register_eq_some hservice, hleads⟩
  case joined =>
    intro closed other hclosed hother hjoins
    rcases hspecialized closed hclosed with hold | rfl
    · obtain ⟨_, hplaced, -⟩ := h.placed closed hold
      have hlt := lt_of_register hplaced.registered
      exact hmem.2 (Or.inl
        (hgathers.joined closed other hold (hgrows.register_of_lt hlt hother) hjoins))
    · obtain rfl := Option.some.inj (hother.symm.trans hregister)
      exact hmem.2 (Or.inr ⟨rfl, hjoins.2⟩)

/-- A request that comes to a specialization may register it. -/
theorem specialize (h : c.Regular ctx services) {source : Registration}
    (hopens : c.Opens ctx target source)
    (hnew : c.underKey source.key (c.servicesFor (closedType target source)) = [])
    (hclosing : Closing ctx services (closedOver target source)) :
    (c.addSpecialization ctx (closedOver target source)).Regular ctx services := by
  have hc := h.arranged.coherent
  let template := closedOver target source
  let b := c.addSpecialization ctx template
  have hgrows : c.Grows b := (extends_addSpecialization c ctx template hc.collect).2
  have hfamilies : b.families = c.families :=
    addSpecialization_view (·.families) ctx (fun _ _ => rfl) enlist_families c template
  have hresolutions : b.resolutions = c.resolutions :=
    addSpecialization_view (·.resolutions) ctx (fun _ _ => rfl) enlist_resolutions c template
  have hindex : b.resolutionIndex = c.resolutionIndex :=
    addSpecialization_view (·.resolutionIndex) ctx (fun _ _ => rfl) enlist_resolutionIndex c
      template
  have hjournal : b.journal = c.journal ++ [.specialized c.size] :=
    addSpecialization_view (·.journal) ctx (fun _ _ => rfl) enlist_journal c template
  have hspecialized (closed : RegistrationId) :
      .specialized closed ∈ b.journal ↔ .specialized closed ∈ c.journal ∨ closed = c.size := by
    simp [hjournal]
  have hself : .specialized c.size ∈ b.journal := (hspecialized c.size).2 (Or.inr rfl)
  have hregister : b.register[c.size]? = some template :=
    register_addSpecialization_self c ctx template
  refine h.extend ((maintained_arranged ctx).specialize hopens hnew h.arranged)
    (h.indexed.of_eq hresolutions hindex) hgrows (h.collects.addSpecialization rfl)
    (h.explains_of_eq hgrows hresolutions) ?specialized ?arises ?families ?gathers
  case specialized =>
    intro closed hclosed
    refine ((hspecialized closed).1 hclosed).imp_right ?_
    rintro rfl
    refine ⟨template, placed_addSpecialization hc hopens hnew, hclosing, fun i _ hshape => ?_⟩
    rw [IsShape, hfamilies] at hshape
    exact absurd (hc.lt_of_isShape hshape) (Nat.not_lt_of_le (Nat.le_add_right _ _))
  case arises =>
    intro id service hle hid
    obtain ⟨i, rfl⟩ := Nat.exists_eq_add_of_le hle
    rw [register_addSpecialization, ← length_register,
      List.getElem?_append_right (Nat.le_add_right _ _), Nat.add_sub_cancel_left] at hid
    cases i with
    | zero =>
      cases hid
      exact ⟨_, .closed hself⟩
    | succ i =>
      rw [List.getElem?_cons_succ, List.getElem?_map] at hid
      obtain ⟨base, hbase, rfl⟩ := Option.map_eq_some_iff.1 hid
      rw [Nat.add_comm i 1, ← Nat.add_assoc]
      exact ⟨_, .base hself hregister hbase⟩
  case families =>
    intro element family hfamily
    rw [hfamilies] at hfamily
    exact Or.inl hfamily
  case gathers =>
    intro element family hfamily
    rw [hfamilies] at hfamily
    exact h.gathers_addSpecialization hclosing hfamily hgrows hregister
      fun closed => (hspecialized closed).1

/-- A request for a collection may make it. -/
theorem family (h : c.Regular ctx services) (ho : Orderly ctx services)
    (hasks : Asks ctx services target) {element : TypeExpr}
    (hanswer : answer ctx services none target = .collection element.unannotated)
    (hnew : c.families.get? element = none) :
    (c.addFamily ctx element (c.members ctx element)).Regular ctx services := by
  have hgrows := grows_addFamily c ctx (c.members ctx element) hnew
  have hfamilies {other : TypeExpr} {family : Family}
      (hfamily : (c.addFamily ctx element (c.members ctx element)).families.get? other =
        some family) :
      c.families.get? other = some family ∨
        element.same other ∧ family = ⟨c.size, c.size + 1, c.size + 2, c.size + 3⟩ := by
    rw [addFamily_families, TypeMap.get?_insert] at hfamily
    split at hfamily
    · next hsame => exact Or.inr ⟨hsame, (Option.some.inj hfamily).symm⟩
    · exact Or.inl hfamily
  refine h.extend (h.arranged.addFamily _ hnew) (h.indexed.of_eq rfl rfl) hgrows
    (h.collects.addFamily _ hnew) (h.explains_of_eq hgrows rfl)
    (fun _ hclosed => Or.inl hclosed) ?arises ?families ?gathers
  case arises =>
    intro id service hle hid
    obtain ⟨other, family, hfamily, hmem⟩ := isShape_addFamily c ctx element _ hle hid
    exact ⟨_, .shape hfamily hmem⟩
  case families =>
    intro other family hfamily
    rcases hfamilies hfamily with hold | ⟨hsame, rfl⟩
    · exact Or.inl hold
    · refine Or.inr ⟨Nat.le_refl _, target, hasks, ?_⟩
      rw [hanswer, TypeExpr.same_iff.1 hsame]
  case gathers =>
    intro other family hfamily
    rcases hfamilies hfamily with hold | ⟨hsame, rfl⟩
    · exact h.gathers_of_eq hgrows (fun _ hclosed => hclosed) hold
        (registration?_addAll_of_lt ctx _ (h.arranged.coherent.enumerable_lt hold))
    · rw [elements_addFamily]
      exact h.gathers_grow ((h.gathers_members ho element).congr hsame) hgrows
        fun _ hclosed => hclosed

end Regular
end Wiring.Container
