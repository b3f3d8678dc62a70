import Wiring.Proofs.Check.Key
import Wiring.Proofs.Check.Origin

/-!
What the collection of an element type holds of the registrations of that type. The registrations
that were there before it are in it, or what they lead to is. Of later ones those that come with a
specialization are put into it; an alias is not.
-/

namespace Wiring.Container

variable {ctx : Context} {a b c : Container} {family : Family} {id member : RegistrationId}

/-- What the collection of the family holds. -/
def elements (c : Container) (family : Family) : List RegistrationId :=
  ((c.registration? family.enumerable).bind (·.collected)).getD []

/-- The registration stands under the type, or constructs it. -/
def ServesAs (c : Container) (type : TypeExpr) (member : RegistrationId) : Prop :=
  ∃ service, c.register[member]? = some service ∧
    (service.type.same type ∨ service.resolvedType.same type)

/-- The registration is that of a closed type, or of one of its bases, which stand behind it. -/
def FromSpecialization (ctx : Context) (c : Container) (id : RegistrationId) : Prop :=
  ∃ closed template, .specialized closed ∈ c.journal ∧ c.register[closed]? = some template ∧
    closed ≤ id ∧ id ≤ closed + (servedBases ctx template.type).length

theorem mem_elements_grow (h : member ∈ a.elements family) (hgrows : a.Grows b) :
    member ∈ b.elements family := by
  unfold elements at h ⊢
  cases hr : a.registration? family.enumerable with
  | none => simp [hr] at h
  | some r =>
    obtain ⟨r', hr', rfl | ⟨-, ids, more, hids, rfl⟩⟩ := hgrows.registrations _ r hr
    · rwa [hr', ← hr]
    · simp only [hr, Option.bind_some, hids, Option.getD_some] at h
      simp [hr', h]

theorem ServesAs.grow {type : TypeExpr} (h : a.ServesAs type member) (hgrows : a.Grows b) :
    b.ServesAs type member := by
  obtain ⟨service, hservice, htype⟩ := h
  exact ⟨service, hgrows.register_eq_some hservice, htype⟩

theorem FromSpecialization.grow (h : a.FromSpecialization ctx id) (hgrows : a.Grows b) :
    b.FromSpecialization ctx id := by
  obtain ⟨closed, template, hclosed, htemplate, hle⟩ := h
  exact ⟨closed, template, hgrows.journal.subset hclosed, hgrows.register_eq_some htemplate, hle⟩

theorem elements_congr
    (h : b.registration? family.enumerable = a.registration? family.enumerable) :
    b.elements family = a.elements family := by
  unfold elements
  rw [h]

theorem elements_add (h : c.Coherent ctx) {element : TypeExpr}
    (hfamily : c.families.get? element = some family) (service : Service) :
    (c.add ctx service).elements family = c.elements family := by
  refine elements_congr ?_
  rw [registration?_add, if_neg (Nat.ne_of_lt (h.enumerable_lt hfamily))]

theorem registration?_addAll_of_lt (ctx : Context) (services : List Service) (h : id < c.size) :
    (c.addAll ctx services).registration? id = c.registration? id := by
  induction services generalizing c with
  | nil => rfl
  | cons service services ih =>
    refine (ih (Nat.lt_of_lt_of_le h (by rw [size_add]; exact Nat.le_succ _))).trans ?_
    rw [registration?_add, if_neg (Nat.ne_of_lt h)]

theorem elements_addFamily (c : Container) (ctx : Context) (element : TypeExpr)
    (ids : List RegistrationId) :
    (c.addFamily ctx element ids).elements ⟨c.size, c.size + 1, c.size + 2, c.size + 3⟩ = ids := by
  obtain ⟨r, hr, hids⟩ := registration?_addFamily_enumerable c ctx element ids
  simp [elements, hr, hids]

theorem mem_collected_collect (r : Registration) (new : RegistrationId) :
    member ∈ (r.collect new).collected.getD [] ↔ member ∈ r.collected.getD [] ∨ member = new := by
  unfold Registration.collect
  by_cases hnew : new ∈ r.collected.getD []
  · simp only [Option.getD_some, List.contains_iff_mem, hnew, if_true]
    refine ⟨Or.inl, ?_⟩
    rintro (hmember | rfl)
    · exact hmember
    · exact hnew
  · simp [hnew]

/-- A registration is put into the collection of one element type. -/
theorem mem_elements_enlist (h : c.Arranged ctx) {element : TypeExpr}
    (hfamily : c.families.get? element = some family) (type : TypeExpr) (new : RegistrationId) :
    member ∈ (c.enlist type new).elements family ↔
      member ∈ c.elements family ∨ member = new ∧ type.same element := by
  cases hother : c.families.get? type with
  | none =>
    have hne : ¬ type.same element := fun hsame => by
      rw [TypeMap.get?_congr c.families hsame, hfamily] at hother
      cases hother
    simp [enlist, hother, hne]
  | some other =>
    obtain ⟨r, hr⟩ := registration?_isSome (h.coherent.enumerable_lt hfamily)
    have hnew : (c.enlist type new).registration? family.enumerable =
        some (if other.enumerable = family.enumerable then r.collect new else r) := by
      rw [registration?_enlist hother, hr, Option.map_some]
    by_cases hsame : type.same element
    · obtain rfl : other = family := by
        rw [TypeMap.get?_congr c.families hsame, hfamily] at hother
        exact (Option.some.inj hother).symm
      rw [if_pos rfl] at hnew
      simp only [elements, hnew, hr, Option.bind_some, mem_collected_collect, hsame, and_true]
    · have hne : ¬ other.enumerable = family.enumerable := fun heq =>
        hsame (h.families.same_of_enumerable_eq hother hfamily heq)
      rw [elements_congr (hnew.trans (by rw [if_neg hne, hr]))]
      simp [hsame]

/-- A specialization is put into the collections of its closed type and of the bases. -/
theorem mem_elements_addSpecialization (h : c.Arranged ctx) {element : TypeExpr}
    (hfamily : c.families.get? element = some family) (template : Service) :
    member ∈ (c.addSpecialization ctx template).elements family ↔
      member ∈ c.elements family ∨ member = c.size ∧ (template.type.same element ∨
        ∃ base ∈ servedBases ctx template.type, base.same element) := by
  have hbases (bases : List TypeExpr) (b : Container) (hb : b.Arranged ctx)
      (hfamily : b.families.get? element = some family) :
      let after := bases.foldl (addBase ctx template template.type c.size) b
      after.Arranged ctx ∧ after.families.get? element = some family ∧
        (member ∈ after.elements family ↔
          member ∈ b.elements family ∨ member = c.size ∧ ∃ base ∈ bases, base.same element) := by
    induction bases generalizing b with
    | nil => exact ⟨hb, hfamily, by simp⟩
    | cons base bases ih =>
      let added := b.add ctx (mirrorOf template template.type base)
      have hadded : added.Arranged ctx := hb.add _
      obtain ⟨harranged, hfamily', hmem⟩ := ih (added.enlist base c.size)
        (hadded.enlist base c.size) (by rw [enlist_families]; exact hfamily)
      refine ⟨harranged, hfamily', hmem.trans ?_⟩
      rw [mem_elements_enlist hadded hfamily, elements_add hb.coherent hfamily]
      simp only [List.mem_cons, exists_eq_or_imp]
      rw [or_assoc, ← and_or_left]
  let added := (c.add ctx template).note (.specialized c.size)
  have hadded : added.Arranged ctx := (h.add template).note _
  have hkept : added.elements family = c.elements family :=
    elements_add h.coherent hfamily template
  obtain ⟨harranged, hfamily', hmem⟩ := hbases (servedBases ctx template.type) added hadded hfamily
  refine (mem_elements_enlist harranged hfamily' template.type c.size).trans ?_
  rw [hmem, hkept, or_assoc, ← and_or_left, or_comm (b := template.type.same element = true)]

/-- Whatever a request is led to serves as the type that its registration constructs. -/
theorem Follows.servesAs (hc : c.Coherent ctx) {next : RegistrationId} (h : c.Follows id next)
    {service : Service} (hid : c.register[id]? = some service) :
    c.ServesAs service.resolvedType next := by
  cases h with
  | itself _ => exact ⟨service, hid, Or.inr (TypeExpr.same_refl _)⟩
  | @shape _ family hfamily hmem =>
    obtain ⟨element, -, hshapes⟩ := hc.shaped _ _ hfamily
    obtain ⟨shape, hshape, hregister, -⟩ := hshapes.of_mem hmem
    obtain rfl := Option.some.inj (hregister.symm.trans hid)
    have henumerable : family.enumerable ∈ family.ids := by simp [Family.ids]
    obtain ⟨target, htarget, hregister', -⟩ := hshapes.of_mem henumerable
    refine ⟨target, hregister', Or.inr ?_⟩
    rw [resolvedType_of_mem_shapesOf htarget, resolvedType_of_mem_shapesOf hshape]
    exact TypeExpr.same_refl _
  | implementation hid' _ himplementation hnext htype _ =>
    obtain rfl := Option.some.inj (hid.symm.trans hid')
    refine ⟨_, hnext, Or.inl ?_⟩
    rwa [Service.resolvedType, himplementation]

theorem Coherent.array_lt (h : c.Coherent ctx) {element : TypeExpr}
    (hfamily : c.families.get? element = some family) : family.array < c.size := by
  obtain ⟨element', -, hshapes⟩ := h.shaped element family hfamily
  exact lt_of_register (hshapes.shapes 0 _ rfl)

/-- Something of the collection serves as the type. -/
def Holds (c : Container) (family : Family) (type : TypeExpr) : Prop :=
  ∃ member ∈ c.elements family, c.ServesAs type member

theorem Holds.grow {type : TypeExpr} (h : a.Holds family type) (hgrows : a.Grows b) :
    b.Holds family type := by
  obtain ⟨member, hmember, hserves⟩ := h
  exact ⟨member, mem_elements_grow hmember hgrows, hserves.grow hgrows⟩

/-- The type is registered. -/
def Offers (c : Container) (type : TypeExpr) : Prop :=
  ∃ (id : RegistrationId) (service : Service), c.register[id]? = some service ∧
    service.type.same type

theorem Offers.grow {type : TypeExpr} (h : a.Offers type) (hgrows : a.Grows b) :
    b.Offers type := by
  obtain ⟨id, service, hid, htype⟩ := h
  exact ⟨id, service, hgrows.register_eq_some hid, htype⟩

/-- A specialization stands at this number, the first of its type. Its bases stand behind it. -/
structure Placed (ctx : Context) (c : Container) (closed : RegistrationId) (template : Service) :
    Prop where
  registered : c.register[closed]? = some template
  implementation : template.implementation = none
  first (earlier : RegistrationId) (service : Service) : earlier < closed →
    c.register[earlier]? = some service → service.key = none → ¬ service.type.same template.type
  bases (i : Nat) (base : TypeExpr) : (servedBases ctx template.type)[i]? = some base →
    c.register[closed + 1 + i]? = some (mirrorOf template template.type base)

/-- An old registration is the one it was. -/
theorem Grows.register_of_lt (h : a.Grows b) {service : Service} (hlt : id < a.size)
    (hid : b.register[id]? = some service) : a.register[id]? = some service := by
  obtain ⟨r, hr⟩ := registration?_isSome hlt
  have hold := register_of_registration hr
  rw [hold, ← h.register_eq_some hold, hid]

theorem Placed.grow {closed : RegistrationId} {template : Service}
    (h : a.Placed ctx closed template) (hgrows : a.Grows b) : b.Placed ctx closed template where
  registered := hgrows.register_eq_some h.registered
  implementation := h.implementation
  first earlier service hlt hservice :=
    h.first earlier service hlt
      (hgrows.register_of_lt (Nat.lt_trans hlt (lt_of_register h.registered)) hservice)
  bases i base hbase := hgrows.register_eq_some (h.bases i base hbase)

/-- The registration leads to a type that was registered before, and whatever the collection holds
was specialized after it. -/
structure Missed (c : Container) (family : Family) (id : RegistrationId) (service : Service) :
    Prop where
  earlier : ∃ old < id, ∃ existing, c.register[old]? = some existing ∧ existing.key = none ∧
    existing.type.same service.resolvedType
  later : ∀ member ∈ c.elements family, id < member ∧ .specialized member ∈ c.journal

/-- What is known of the registrations of the element type, and of the collection made for it. -/
structure Enrolls (ctx : Context) (c : Container) (element : TypeExpr) (family : Family) :
    Prop where
  offers : ∀ member ∈ c.elements family, c.Offers element
  made : ∀ member ∈ c.elements family, member < family.array ∨ .specialized member ∈ c.journal
  enters (closed : RegistrationId) (template : Service) : .specialized closed ∈ c.journal →
    c.register[closed]? = some template → family.array ≤ closed →
    (template.type.same element ∨ ∃ base ∈ servedBases ctx template.type, base.same element) →
    closed ∈ c.elements family
  earlier (id : RegistrationId) (service : Service) : c.register[id]? = some service →
    service.type.same element → service.isClosed → id < family.array →
    c.Holds family service.resolvedType
  later (id : RegistrationId) (service : Service) : c.register[id]? = some service →
    service.type.same element → family.array ≤ id →
    c.FromSpecialization ctx id ∨ c.IsShape id ∨ c.Missed family id service

theorem Enrolls.congr {element other : TypeExpr} (h : c.Enrolls ctx element family)
    (hsame : element.same other) : c.Enrolls ctx other family := by
  have htype (type : TypeExpr) : type.same other = type.same element :=
    (TypeExpr.same_congr type hsame).symm
  constructor
  · intro member hmember
    obtain ⟨id, service, hid, hservice⟩ := h.offers member hmember
    exact ⟨id, service, hid, by rwa [htype]⟩
  · exact h.made
  · simp only [htype]
    exact h.enters
  · simp only [htype]
    exact h.earlier
  · simp only [htype]
    exact h.later

structure Enrolled (ctx : Context) (c : Container) : Prop where
  arranged : c.Arranged ctx
  placed (closed : RegistrationId) : .specialized closed ∈ c.journal →
    ∃ template, c.Placed ctx closed template
  enrolls (element : TypeExpr) (family : Family) : c.families.get? element = some family →
    c.Enrolls ctx element family

theorem Enrolled.specialized_lt (h : c.Enrolled ctx) {closed : RegistrationId}
    (hclosed : .specialized closed ∈ c.journal) : closed < c.size := by
  obtain ⟨template, hplaced⟩ := h.placed closed hclosed
  exact lt_of_register hplaced.registered

/-- A collection keeps its standing when registrations are added behind the others. -/
theorem Enrolled.extend (h : a.Enrolled ctx) {element : TypeExpr}
    (hfamily : a.families.get? element = some family) (hgrows : a.Grows b)
    (hjournal : ∀ closed, .specialized closed ∈ b.journal →
      .specialized closed ∈ a.journal ∨ closed = a.size)
    (hkept : ∀ member ∈ b.elements family, member ∈ a.elements family ∨
      member = a.size ∧ .specialized a.size ∈ b.journal ∧ b.Offers element)
    (hentered : ∀ template, .specialized a.size ∈ b.journal →
      b.register[a.size]? = some template →
      (template.type.same element ∨ ∃ base ∈ servedBases ctx template.type, base.same element) →
      a.size ∈ b.elements family)
    (hlater : ∀ id service, a.size ≤ id → b.register[id]? = some service →
      service.type.same element →
      b.FromSpecialization ctx id ∨ b.IsShape id ∨ b.Missed family id service) :
    b.Enrolls ctx element family := by
  have henrolls := h.enrolls element family hfamily
  constructor
  · intro member hmember
    rcases hkept member hmember with hold | ⟨-, -, hoffers⟩
    · exact (henrolls.offers member hold).grow hgrows
    · exact hoffers
  · intro member hmember
    rcases hkept member hmember with hold | ⟨rfl, hnew, -⟩
    · exact (henrolls.made member hold).imp_right fun hmem => hgrows.journal.subset hmem
    · exact Or.inr hnew
  · intro closed template hclosed htemplate hle hconcerns
    rcases hjournal closed hclosed with hold | rfl
    · have hregistered := hgrows.register_of_lt (h.specialized_lt hold) htemplate
      exact mem_elements_grow (henrolls.enters closed template hold hregistered hle hconcerns)
        hgrows
    · exact hentered template hclosed htemplate hconcerns
  · intro id service hid htype hclosed hlt
    have hold : id < a.size := Nat.lt_trans hlt (h.arranged.coherent.array_lt hfamily)
    exact (henrolls.earlier id service (hgrows.register_of_lt hold hid) htype hclosed hlt).grow
      hgrows
  · intro id service hid htype hle
    by_cases hold : id < a.size
    · rcases henrolls.later id service (hgrows.register_of_lt hold hid) htype hle with
        hspecialized | hshape | ⟨hearlier, hafter⟩
      · exact Or.inl (hspecialized.grow hgrows)
      · exact Or.inr (Or.inl (hshape.grow hgrows))
      · refine Or.inr (Or.inr ⟨?_, fun member hmember => ?_⟩)
        · obtain ⟨old, hlt, existing, hexisting, hrest⟩ := hearlier
          exact ⟨old, hlt, existing, hgrows.register_eq_some hexisting, hrest⟩
        · rcases hkept member hmember with hmember | ⟨rfl, hnew, -⟩
          · exact (hafter member hmember).imp_right fun hmem => hgrows.journal.subset hmem
          · exact ⟨hold, hnew⟩
    · exact hlater id service (Nat.le_of_not_lt hold) hid htype

theorem Enrolled.congr (h : a.Enrolled ctx) (hrestates : a.Restates b) : b.Enrolled ctx where
  arranged := (maintained_arranged ctx).congr hrestates h.arranged
  placed closed hclosed := by
    obtain ⟨template, hplaced⟩ := h.placed closed (hrestates.specialized closed hclosed)
    exact ⟨template, hplaced.grow hrestates.grows⟩
  enrolls element family hfamily := by
    rw [hrestates.families] at hfamily
    have hsize : b.size = a.size := congrArg List.length hrestates.registrations
    have helements : b.elements family = a.elements family := by
      refine elements_congr ?_
      rw [registration?, hrestates.registrations]
      rfl
    refine h.extend hfamily hrestates.grows (fun closed hclosed =>
      Or.inl (hrestates.specialized closed hclosed)) ?_ ?_ ?_
    · intro member hmember
      rw [helements] at hmember
      exact Or.inl hmember
    · intro template _ htemplate _
      exact absurd (lt_of_register htemplate) (by rw [hsize]; exact Nat.lt_irrefl _)
    · intro id service hle hid _
      have hlt := lt_of_register hid
      rw [hsize] at hlt
      exact absurd hlt (Nat.not_lt_of_le hle)

theorem Enrolled.redirect (h : c.Enrolled ctx) {target : TypeExpr} {source : Registration}
    (hopens : c.Opens ctx target source)
    (hold : c.underKey source.key (c.servicesFor (closedType target source)) ≠ []) :
    (c.add ctx (aliasOf target (closedType target source) source)).Enrolled ctx := by
  let added := aliasOf target (closedType target source) source
  have hgrows := grows_add c ctx added
  have hc := h.arranged.coherent
  refine ⟨h.arranged.add added, fun closed hclosed => ?_, fun element family hfamily => ?_⟩
  · obtain ⟨template, hplaced⟩ := h.placed closed hclosed
    exact ⟨template, hplaced.grow hgrows⟩
  have helements : (c.add ctx added).elements family = c.elements family :=
    elements_add hc hfamily added
  refine h.extend hfamily hgrows (fun _ hclosed => Or.inl hclosed) ?_ ?_ ?_
  · intro member hmember
    rw [helements] at hmember
    exact Or.inl hmember
  · intro template hclosed _ _
    exact absurd (h.specialized_lt hclosed) (Nat.lt_irrefl _)
  · intro id service hle hid htype
    rw [register_add_eq] at hid
    split at hid
    · next hlast =>
      cases hid
      -- nothing of the type was registered, so the collection is empty
      obtain ⟨earlier, hearlier⟩ := List.exists_mem_of_ne_nil _ hold
      obtain ⟨existing, hexisting, hsame, hkey⟩ := (mem_underKey_servicesFor hc.listed).1 hearlier
      refine Or.inr (Or.inr ⟨⟨earlier, ?_, existing, hgrows.register_eq_some hexisting, ?_, hsame⟩,
        fun member hmember => ?_⟩)
      · rw [hlast]
        exact lt_of_register hexisting
      · rw [hkey, hopens.key_eq_none hc]
      · rw [helements] at hmember
        obtain ⟨first, service, hfirst, hfirstType⟩ :=
          (h.enrolls element family hfamily).offers member hmember
        have hmem : first ∈ c.servicesFor target :=
          (hc.listed target first).2 ⟨service, hfirst,
            TypeExpr.same_trans hfirstType (by rwa [TypeExpr.same_comm])⟩
        rw [hopens.unserved] at hmem
        cases hmem
    · exact absurd (lt_of_register hid) (Nat.not_lt_of_le hle)

theorem isClosed_of_register {service : Service} (h : c.register[id]? = some service) :
    c.isClosed id = service.isClosed := by
  obtain ⟨r, hr, rfl⟩ := register_eq_some_iff.1 h
  rw [isClosed, hr]
  rfl

theorem isShape_addFamily (c : Container) (ctx : Context) (element : TypeExpr)
    (ids : List RegistrationId) (hle : c.size ≤ id) {service : Service}
    (hid : (c.addFamily ctx element ids).register[id]? = some service) :
    (c.addFamily ctx element ids).IsShape id := by
  refine ⟨element, _, families_addFamily_self c ctx element ids, ?_⟩
  rw [(shapes_addFamily c ctx element ids).mem_ids]
  have hlt := (List.getElem?_eq_some_iff.1 hid).1
  rw [register_addFamily, List.length_append, length_register] at hlt
  exact ⟨hle, Nat.le_of_lt_succ hlt⟩

/-- A new collection begins with what the registrations of its element type lead to. -/
theorem Enrolled.enrolls_members (h : c.Enrolled ctx) {element : TypeExpr}
    (hnew : c.families.get? element = none) :
    (c.addFamily ctx element (c.members ctx element)).Enrolls ctx element
      ⟨c.size, c.size + 1, c.size + 2, c.size + 3⟩ := by
  have hc := h.arranged.coherent
  have hgrows := grows_addFamily c ctx (c.members ctx element) hnew
  have helements := elements_addFamily c ctx element (c.members ctx element)
  constructor
  · intro member hmember
    rw [helements] at hmember
    obtain ⟨id, hid, -⟩ := List.mem_map.1 hmember
    obtain ⟨service, hservice, htype⟩ := (hc.listed element id).1 (List.mem_filter.1 hid).1
    exact Offers.grow ⟨id, service, hservice, htype⟩ hgrows
  · intro member hmember
    rw [helements] at hmember
    obtain ⟨id, hid, rfl⟩ := List.mem_map.1 hmember
    obtain ⟨service, hservice, -⟩ := (hc.listed element id).1 (List.mem_filter.1 hid).1
    exact Or.inl (hc.follow_lt (lt_of_register hservice))
  · intro closed template hclosed _ hle _
    exact absurd (h.specialized_lt hclosed) (Nat.not_lt_of_le hle)
  · intro id service hid htype hclosed hlt
    have hold := hgrows.register_of_lt hlt hid
    have hmember : c.follow ctx id ∈ c.members ctx element := by
      refine List.mem_map_of_mem (List.mem_filter.2 ⟨?_, ?_⟩)
      · exact (hc.listed element id).2 ⟨service, hold, htype⟩
      · rwa [isClosed_of_register hold]
    have hserves := (follows_follow hc hold).servesAs hc hold
    exact ⟨c.follow ctx id, by rwa [helements], hserves.grow hgrows⟩
  · intro id service hid _ hle
    exact Or.inr (Or.inl (isShape_addFamily c ctx element _ hle hid))

theorem Enrolled.addFamily (h : c.Enrolled ctx) {element : TypeExpr}
    (hnew : c.families.get? element = none) :
    (c.addFamily ctx element (c.members ctx element)).Enrolled ctx := by
  have hc := h.arranged.coherent
  have hgrows := grows_addFamily c ctx (c.members ctx element) hnew
  refine ⟨h.arranged.addFamily _ hnew, fun closed hclosed => ?_, fun other family hfamily => ?_⟩
  · obtain ⟨template, hplaced⟩ := h.placed closed hclosed
    exact ⟨template, hplaced.grow hgrows⟩
  rw [addFamily_families, TypeMap.get?_insert] at hfamily
  split at hfamily
  · next hsame =>
    obtain rfl := Option.some.inj hfamily
    exact (h.enrolls_members hnew).congr hsame
  have hkept : (c.addFamily ctx element (c.members ctx element)).elements family =
      c.elements family :=
    elements_congr (registration?_addAll_of_lt ctx _ (hc.enumerable_lt hfamily))
  refine h.extend hfamily hgrows (fun _ hclosed => Or.inl hclosed) ?_ ?_ ?_
  · intro member hmember
    rw [hkept] at hmember
    exact Or.inl hmember
  · intro template hclosed _ _
    exact absurd (h.specialized_lt hclosed) (Nat.lt_irrefl _)
  · intro id service hle hid _
    exact Or.inr (Or.inl (isShape_addFamily c ctx element _ hle hid))

/-- A specialization is the first registration of its type, and its bases follow it. -/
theorem placed_addSpecialization (hc : c.Coherent ctx) {target : TypeExpr} {source : Registration}
    (hopens : c.Opens ctx target source)
    (hnew : c.underKey source.key (c.servicesFor (closedType target source)) = []) :
    (c.addSpecialization ctx (closedOver target source)).Placed ctx c.size
      (closedOver target source) where
  registered := register_addSpecialization_self c ctx (closedOver target source)
  implementation := rfl
  first earlier service hlt hservice hkey htype := by
    have hgrows := (extends_addSpecialization c ctx (closedOver target source) hc.collect).2
    have hold := hgrows.register_of_lt hlt hservice
    have hmem : earlier ∈ c.underKey source.key (c.servicesFor (closedType target source)) :=
      (mem_underKey_servicesFor hc.listed).2
        ⟨service, hold, htype, by rw [hkey, hopens.key_eq_none hc]⟩
    rw [hnew] at hmem
    cases hmem
  bases i base hbase := by
    rw [register_addSpecialization, ← length_register, Nat.add_assoc,
      List.getElem?_append_right (Nat.le_add_right _ _), Nat.add_sub_cancel_left, Nat.add_comm,
      List.getElem?_cons_succ, List.getElem?_map]
    exact congrArg (Option.map _) hbase

theorem Enrolled.specialize (h : c.Enrolled ctx) {target : TypeExpr} {source : Registration}
    (hopens : c.Opens ctx target source)
    (hnew : c.underKey source.key (c.servicesFor (closedType target source)) = []) :
    (c.addSpecialization ctx (closedOver target source)).Enrolled ctx := by
  have hc := h.arranged.coherent
  let template := closedOver target source
  let b := c.addSpecialization ctx template
  have hgrows : c.Grows b := (extends_addSpecialization c ctx template hc.collect).2
  have hfamilies : b.families = c.families :=
    addSpecialization_view (·.families) ctx (fun _ _ => rfl) enlist_families c template
  have hjournal : b.journal = c.journal ++ [.specialized c.size] :=
    addSpecialization_view (·.journal) ctx (fun _ _ => rfl) enlist_journal c template
  have hplaced : b.Placed ctx c.size template := placed_addSpecialization hc hopens hnew
  have hspecialized (closed : RegistrationId) :
      .specialized closed ∈ b.journal ↔ .specialized closed ∈ c.journal ∨ closed = c.size := by
    simp [hjournal]
  refine ⟨(maintained_arranged ctx).specialize hopens hnew h.arranged, fun closed hclosed => ?_,
    fun element family hfamily => ?_⟩
  · rcases (hspecialized closed).1 hclosed with hold | rfl
    · obtain ⟨other, hother⟩ := h.placed closed hold
      exact ⟨other, hother.grow hgrows⟩
    · exact ⟨template, hplaced⟩
  have hfamily : c.families.get? element = some family := by rwa [← hfamilies]
  have hmem (member : RegistrationId) : member ∈ b.elements family ↔
      member ∈ c.elements family ∨ member = c.size ∧ (template.type.same element ∨
        ∃ base ∈ servedBases ctx template.type, base.same element) :=
    mem_elements_addSpecialization h.arranged hfamily template
  have hself : .specialized c.size ∈ b.journal := (hspecialized c.size).2 (Or.inr rfl)
  refine h.extend hfamily hgrows (fun closed hclosed => (hspecialized closed).1 hclosed) ?_ ?_ ?_
  · intro member hmember
    rcases (hmem member).1 hmember with hold | ⟨rfl, hconcerns⟩
    · exact Or.inl hold
    · refine Or.inr ⟨rfl, hself, ?_⟩
      rcases hconcerns with hown | ⟨base, hbase, hsame⟩
      · exact ⟨c.size, template, hplaced.registered, hown⟩
      · obtain ⟨i, hi⟩ := List.getElem?_of_mem hbase
        exact ⟨_, _, hplaced.bases i base hi, hsame⟩
  · intro other _ hother hconcerns
    obtain rfl := Option.some.inj (hother.symm.trans hplaced.registered)
    exact (hmem c.size).2 (Or.inr ⟨rfl, hconcerns⟩)
  · intro id service hle hid _
    refine Or.inl ⟨c.size, template, hself, hplaced.registered, hle, ?_⟩
    have hlt := (List.getElem?_eq_some_iff.1 hid).1
    rw [register_addSpecialization, List.length_append, List.length_cons, List.length_map,
      length_register] at hlt
    exact Nat.le_of_lt_succ hlt

theorem maintained_enrolled (ctx : Context) : Maintained ctx (Enrolled ctx) where
  congr hrestates h := h.congr hrestates
  family _ _ hnew h := h.addFamily hnew
  redirect hopens hold _ h := h.redirect hopens hold
  specialize hopens hnew h := h.specialize hopens hnew

theorem Placed.resolvedType {closed : RegistrationId} {template : Service}
    (h : c.Placed ctx closed template) : template.resolvedType = template.type := by
  rw [Service.resolvedType, h.implementation]
  rfl

theorem Placed.eq_or_base {closed : RegistrationId} {template : Service}
    (h : c.Placed ctx closed template) (hle : closed ≤ id)
    (hid : id ≤ closed + (servedBases ctx template.type).length) :
    id = closed ∨ ∃ base ∈ servedBases ctx template.type,
      c.register[id]? = some (mirrorOf template template.type base) := by
  rcases Nat.eq_or_lt_of_le hle with heq | hlt
  · exact Or.inl heq.symm
  · obtain ⟨i, rfl⟩ := Nat.exists_eq_add_of_lt hlt
    have hi : i < (servedBases ctx template.type).length :=
      Nat.lt_of_succ_le (Nat.le_of_add_le_add_left hid)
    refine Or.inr ⟨_, List.getElem_mem hi, ?_⟩
    rw [Nat.add_right_comm]
    exact h.bases i _ (List.getElem?_eq_getElem hi)

/-- What comes with a specialization after the collection is put into it as the closed type. -/
theorem Enrolled.holds_of_fromSpecialization (h : c.Enrolled ctx) {element : TypeExpr}
    (hfamily : c.families.get? element = some family) {service : Service}
    (hid : c.register[id]? = some service) (htype : service.type.same element)
    (hle : family.array ≤ id) (hspecialized : c.FromSpecialization ctx id) :
    c.Holds family service.resolvedType := by
  obtain ⟨closed, template, hclosed, htemplate, hfirst, hlast⟩ := hspecialized
  obtain ⟨other, hplaced⟩ := h.placed closed hclosed
  obtain rfl := Option.some.inj (htemplate.symm.trans hplaced.registered)
  have hserves : c.ServesAs template.type closed :=
    ⟨template, htemplate, Or.inl (TypeExpr.same_refl _)⟩
  -- the specialization adds its registrations in a row, so the array is not among them
  have harray : family.array ≤ closed := by
    by_contra hlt
    have hlt := Nat.lt_of_not_le hlt
    obtain ⟨element', -, hshapes⟩ := h.arranged.coherent.shaped element family hfamily
    have hregister := hshapes.shapes 0 _ rfl
    rcases hplaced.eq_or_base (Nat.le_of_lt hlt) (Nat.le_trans hle hlast) with
      heq | ⟨base, -, hbase⟩
    · exact absurd heq (Nat.ne_of_gt hlt)
    · rw [Nat.add_zero, hbase] at hregister
      cases congrArg Service.implementation (Option.some.inj hregister)
  rcases hplaced.eq_or_base hfirst hlast with rfl | ⟨base, hbase, hmirror⟩
  · obtain rfl := Option.some.inj (hid.symm.trans htemplate)
    have hmember := (h.enrolls element family hfamily).enters id service hclosed hid harray
      (Or.inl htype)
    refine ⟨id, hmember, ?_⟩
    rwa [hplaced.resolvedType]
  · obtain rfl := Option.some.inj (hid.symm.trans hmirror)
    have hmember := (h.enrolls element family hfamily).enters closed template hclosed htemplate
      harray (Or.inr ⟨base, hbase, htype⟩)
    exact ⟨closed, hmember, hserves⟩

/-- A type that was led to before is specialized by nobody later. -/
theorem Enrolled.not_holds_of_missed (h : c.Enrolled ctx) {service : Service}
    (hmissed : c.Missed family id service) : ¬ c.Holds family service.resolvedType := by
  rintro ⟨member, hmember, target, htarget, hserves⟩
  obtain ⟨hlt, hspecialized⟩ := hmissed.later member hmember
  obtain ⟨template, hplaced⟩ := h.placed member hspecialized
  obtain rfl := Option.some.inj (htarget.symm.trans hplaced.registered)
  have hsame : target.type.same service.resolvedType := by
    rwa [hplaced.resolvedType, or_self] at hserves
  obtain ⟨old, hold, existing, hexisting, hkey, htype⟩ := hmissed.earlier
  exact hplaced.first old existing (Nat.lt_trans hold hlt) hexisting hkey
    (TypeExpr.same_trans htype (by rwa [TypeExpr.same_comm]))

/-- What the collection of its type misses came after it, and not with a specialization. -/
theorem Enrolled.late_of_missed (h : c.Enrolled ctx) {element : TypeExpr}
    (hfamily : c.families.get? element = some family) {service : Service}
    (hid : c.register[id]? = some service) (htype : service.type.same element)
    (hclosed : service.isClosed) (hmissed : ¬ c.Holds family service.resolvedType) :
    family.array ≤ id ∧ ¬ c.FromSpecialization ctx id := by
  have hle : family.array ≤ id := Nat.le_of_not_lt fun hlt =>
    hmissed ((h.enrolls element family hfamily).earlier id service hid htype hclosed hlt)
  exact ⟨hle, fun hspecialized =>
    hmissed (h.holds_of_fromSpecialization hfamily hid htype hle hspecialized)⟩

/-- A registration that is no shape is missed by the collection of its type exactly if it came after
it, and not with a specialization. -/
theorem Enrolled.missed_iff (h : c.Enrolled ctx) {element : TypeExpr}
    (hfamily : c.families.get? element = some family) {service : Service}
    (hid : c.register[id]? = some service) (htype : service.type.same element)
    (hclosed : service.isClosed) (hshape : ¬ c.IsShape id) :
    ¬ c.Holds family service.resolvedType ↔
      family.array ≤ id ∧ ¬ c.FromSpecialization ctx id := by
  refine ⟨h.late_of_missed hfamily hid htype hclosed, ?_⟩
  rintro ⟨hle, hplain⟩
  rcases (h.enrolls element family hfamily).later id service hid htype hle with
    hspecialized | hisShape | hmissed
  · exact absurd hspecialized hplain
  · exact absurd hisShape hshape
  · exact h.not_holds_of_missed hmissed

end Wiring.Container
