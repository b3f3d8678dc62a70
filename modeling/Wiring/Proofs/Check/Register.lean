import Wiring.Proofs.Check.Record

/-!
The register of a container: which services it holds, with what their collections hold left out.
Apart from new services at its end a check leaves the register as it is. The registrations of a type
are those that the register lists under the type, and a family stands in it as its four shapes in a
row.
-/

namespace Wiring

/-- The service without the elements of a collection. -/
def Service.plain (service : Service) : Service := { service with collected := none }

@[simp] theorem Service.resolvedType_plain (service : Service) :
    service.plain.resolvedType = service.resolvedType := rfl

namespace Container

/-- The services as they were registered, in order. -/
def register (c : Container) : List Service := c.registrations.map (·.toService.plain)

/-- The four shapes of a collection. -/
def shapesOf (ctx : Context) (element : TypeExpr) : List Service :=
  let array := TypeExpr.arrayOf element
  [{ type := array, lifetime := .transient },
    { type := ctx.settings.readOnlyListOf element, lifetime := .transient,
      implementation := some array },
    { type := ctx.settings.readOnlyCollectionOf element, lifetime := .transient,
      implementation := some array },
    { type := ctx.settings.enumerableOf element, lifetime := .transient,
      implementation := some array }]

variable {ctx : Context} {a b c : Container}

theorem register_getElem? (c : Container) (id : RegistrationId) :
    c.register[id]? = (c.registration? id).map (·.toService.plain) := List.getElem?_map

theorem register_eq_some_iff {id : RegistrationId} {service : Service} :
    c.register[id]? = some service ↔
      ∃ r, c.registration? id = some r ∧ r.toService.plain = service := by
  rw [register_getElem?, Option.map_eq_some_iff]

theorem register_of_registration {id : RegistrationId} {r : Registration}
    (h : c.registration? id = some r) : c.register[id]? = some r.toService.plain :=
  register_eq_some_iff.2 ⟨r, h, rfl⟩

theorem length_register (c : Container) : c.register.length = c.size := List.length_map _

theorem lt_of_register {id : RegistrationId} {service : Service}
    (h : c.register[id]? = some service) : id < c.size := by
  rw [← length_register]
  exact (List.getElem?_eq_some_iff.1 h).1

@[simp] theorem register_add (c : Container) (ctx : Context) (service : Service) :
    (c.add ctx service).register = c.register ++ [service.plain] := by
  simp [register, registrationOf]

@[simp] theorem register_note (c : Container) (event : Event) :
    (c.note event).register = c.register := rfl

/-- What is put into a collection leaves alone whatever does not depend on elements. -/
theorem map_registrations_enlist {α : Type} {f : Registration → α}
    (hf : ∀ r member, f (r.collect member) = f r) (c : Container) (element : TypeExpr)
    (member : RegistrationId) :
    (c.enlist element member).registrations.map f = c.registrations.map f := by
  unfold enlist
  split
  · refine List.ext_getElem? fun i => ?_
    simp only [List.getElem?_map, List.getElem?_modify]
    cases c.registrations[i]? with
    | none => rfl
    | some r =>
      simp only [Option.map_some]
      split
      · exact congrArg some (hf r member)
      · rfl
  · rfl

@[simp] theorem register_enlist (c : Container) (element : TypeExpr) (member : RegistrationId) :
    (c.enlist element member).register = c.register :=
  map_registrations_enlist (fun _ _ => rfl) c element member

theorem register_addFamily (c : Container) (ctx : Context) (element : TypeExpr)
    (ids : List RegistrationId) :
    (c.addFamily ctx element ids).register = c.register ++ shapesOf ctx element := by
  change (c.addAll ctx _).register = _
  simp [addAll, shapesOf, Service.plain]

theorem families_addFamily_self (c : Container) (ctx : Context) (element : TypeExpr)
    (ids : List RegistrationId) : (c.addFamily ctx element ids).families.get? element =
      some ⟨c.size, c.size + 1, c.size + 2, c.size + 3⟩ := by
  rw [addFamily_families, TypeMap.get?_insert, if_pos (TypeExpr.same_refl element)]

/-- A specialization registers its closed type, then the bases. -/
theorem register_addSpecialization (c : Container) (ctx : Context) (template : Service) :
    (c.addSpecialization ctx template).register = c.register ++
      template.plain :: (servedBases ctx template.type).map
        fun base => (mirrorOf template template.type base).plain := by
  have hbases (bases : List TypeExpr) (b : Container) :
      (bases.foldl (addBase ctx template template.type c.size) b).register =
        b.register ++ bases.map fun base => (mirrorOf template template.type base).plain := by
    induction bases generalizing b with
    | nil => simp
    | cons base bases ih =>
      rw [List.foldl_cons, ih]
      simp [addBase, mirrorOf]
  unfold addSpecialization
  simp [hbases]

theorem register_addSpecialization_self (c : Container) (ctx : Context) (template : Service) :
    (c.addSpecialization ctx template).register[c.size]? = some template.plain := by
  rw [register_addSpecialization, ← length_register, List.getElem?_append_right (Nat.le_refl _),
    Nat.sub_self]
  rfl

theorem register_add_eq (c : Container) (ctx : Context) (service : Service) (id : RegistrationId) :
    (c.add ctx service).register[id]? =
      if id = c.size then some service.plain else c.register[id]? := by
  rw [register_getElem?, register_getElem?, registration?_add]
  split <;> rfl

theorem Grows.register_eq_some (h : a.Grows b) {id : RegistrationId} {service : Service}
    (hs : a.register[id]? = some service) : b.register[id]? = some service := by
  obtain ⟨r, hr, rfl⟩ := register_eq_some_iff.1 hs
  obtain ⟨r', hr', rfl | ⟨-, ids, more, -, rfl⟩⟩ := h.registrations id r hr
  · exact register_of_registration hr'
  · exact register_eq_some_iff.2 ⟨_, hr', rfl⟩

/-- The registrations of a type are those the register lists under it. -/
def Listed (c : Container) : Prop :=
  ∀ type id, id ∈ c.servicesFor type ↔
    ∃ service, c.register[id]? = some service ∧ service.type.same type

theorem Listed.lt (h : c.Listed) {type : TypeExpr} {id : RegistrationId}
    (hid : id ∈ c.servicesFor type) : id < c.size := by
  obtain ⟨service, hservice, -⟩ := (h type id).1 hid
  exact lt_of_register hservice

theorem Listed.add (h : c.Listed) (ctx : Context) (service : Service) :
    (c.add ctx service).Listed := by
  intro type id
  rw [servicesFor_add, register_add_eq]
  have hnew : ¬ c.size ∈ c.servicesFor type := fun hmem => absurd (h.lt hmem) (Nat.lt_irrefl _)
  by_cases hid : id = c.size
  · subst hid
    by_cases htype : service.type.same type <;> simp [htype, hnew, Service.plain]
  · by_cases htype : service.type.same type <;> simp [htype, hid, h type id]

theorem Listed.of_eq (h : a.Listed) (hregister : b.register = a.register)
    (hbyType : b.byType = a.byType) : b.Listed := by
  intro type id
  rw [servicesFor, hbyType, hregister]
  exact h type id

theorem enlist_byType (c : Container) (element : TypeExpr) (member : RegistrationId) :
    (c.enlist element member).byType = c.byType := by
  unfold enlist
  split <;> rfl

theorem Listed.enlist (h : c.Listed) (element : TypeExpr) (member : RegistrationId) :
    (c.enlist element member).Listed :=
  h.of_eq (register_enlist c element member) (enlist_byType c element member)

theorem Listed.addAll (h : c.Listed) (ctx : Context) (services : List Service) :
    (c.addAll ctx services).Listed := by
  induction services generalizing c with
  | nil => exact h
  | cons service services ih => exact ih (h.add ctx service)

/-- The numbers of the family are those of its shapes, one after another. -/
structure Shapes (ctx : Context) (c : Container) (element : TypeExpr) (family : Family) :
    Prop where
  ids : family.ids = [family.array, family.array + 1, family.array + 2, family.array + 3]
  shapes (i : Nat) (service : Service) : (shapesOf ctx element)[i]? = some service →
    c.register[family.array + i]? = some service

theorem Shapes.grow {element : TypeExpr} {family : Family} (h : a.Shapes ctx element family)
    (hgrows : a.Grows b) : b.Shapes ctx element family :=
  ⟨h.ids, fun i service hi => hgrows.register_eq_some (h.shapes i service hi)⟩

theorem shapes_addFamily (c : Container) (ctx : Context) (element : TypeExpr)
    (ids : List RegistrationId) : (c.addFamily ctx element ids).Shapes ctx element
      ⟨c.size, c.size + 1, c.size + 2, c.size + 3⟩ := by
  refine ⟨rfl, fun i service hi => ?_⟩
  change (c.addFamily ctx element ids).register[c.size + i]? = some service
  rw [register_addFamily, ← length_register, List.getElem?_append_right (Nat.le_add_right _ _),
    Nat.add_sub_cancel_left]
  exact hi

theorem Shapes.shape_of_mem {element : TypeExpr} {family : Family}
    (h : c.Shapes ctx element family) {id : RegistrationId} (hid : id ∈ family.ids) :
    ∃ i shape, id = family.array + i ∧ (shapesOf ctx element)[i]? = some shape ∧
      c.register[id]? = some shape := by
  obtain ⟨i, hi, rfl⟩ : ∃ i : Nat, i < 4 ∧ id = family.array + i := by
    rw [h.ids] at hid
    simp only [List.mem_cons, List.not_mem_nil, or_false] at hid
    rcases hid with rfl | rfl | rfl | rfl
    exacts [⟨0, by decide, rfl⟩, ⟨1, by decide, rfl⟩, ⟨2, by decide, rfl⟩, ⟨3, by decide, rfl⟩]
  have hget := List.getElem?_eq_getElem (l := shapesOf ctx element) (i := i) hi
  exact ⟨i, _, rfl, hget, h.shapes i _ hget⟩

/-- Each number of a family is that of a shape, and the shape leads to the array at its head. -/
theorem Shapes.of_mem {element : TypeExpr} {family : Family} (h : c.Shapes ctx element family)
    {id : RegistrationId} (hid : id ∈ family.ids) :
    ∃ shape ∈ shapesOf ctx element, c.register[id]? = some shape ∧ family.array ≤ id := by
  obtain ⟨i, shape, rfl, hshape, hregister⟩ := h.shape_of_mem hid
  exact ⟨shape, List.mem_of_getElem? hshape, hregister, Nat.le_add_right _ _⟩

/-- The registration is a shape of a collection. -/
def IsShape (c : Container) (id : RegistrationId) : Prop :=
  ∃ element family, c.families.get? element = some family ∧ id ∈ family.ids

/-- No old registration becomes a shape. -/
theorem Grows.isShape_of_lt (h : a.Grows b) {id : RegistrationId} (hlt : id < a.size)
    (hid : b.IsShape id) : a.IsShape id := by
  obtain ⟨element, family, hf, hmem⟩ := hid
  rcases h.newFamilies element family hf with hold | hnew
  · exact ⟨element, family, hold, hmem⟩
  · exact absurd (hnew id hmem) (Nat.not_le_of_lt hlt)

theorem IsShape.grow {id : RegistrationId} (h : a.IsShape id) (hgrows : a.Grows b) :
    b.IsShape id := by
  obtain ⟨element, family, hf, hmem⟩ := h
  exact ⟨element, family, hgrows.families element family hf, hmem⟩

/-- Each shape leads to the array. -/
theorem resolvedType_of_mem_shapesOf {element : TypeExpr} {shape : Service}
    (h : shape ∈ shapesOf ctx element) : shape.resolvedType = TypeExpr.arrayOf element := by
  simp only [shapesOf, List.mem_cons, List.not_mem_nil, or_false] at h
  rcases h with rfl | rfl | rfl | rfl <;> rfl

/-- Each shape names the element type. -/
theorem collectionElement?_of_mem_shapesOf {element : TypeExpr} {shape : Service}
    (h : shape ∈ shapesOf ctx element) :
    ctx.settings.collectionElement? shape.type = some element := by
  simp only [shapesOf, List.mem_cons, List.not_mem_nil, or_false] at h
  have hnamed (name name' : String) :
      Settings.argumentOf? name ⟨.interfaceType, name', [element], false⟩ =
        if name' = name then some element else none := by
    simp [Settings.argumentOf?, TypeExpr.isNamed]
  -- the shapes are told apart by names, of which the settings may use one for several
  rcases h with rfl | rfl | rfl | rfl
  · rfl
  · simp only [Settings.collectionElement?, TypeExpr.element?, TypeExpr.isArray,
      Settings.readOnlyListOf, hnamed]
    grind
  · simp only [Settings.collectionElement?, TypeExpr.element?, TypeExpr.isArray,
      Settings.readOnlyCollectionOf, hnamed]
    grind
  · simp [Settings.collectionElement?, TypeExpr.element?, TypeExpr.isArray,
      Settings.enumerableOf, hnamed]

/-- What the register is a register of. -/
structure Coherent (ctx : Context) (c : Container) : Prop where
  listed : c.Listed
  collect : c.EnumerablesCollect
  shaped (element : TypeExpr) (family : Family) : c.families.get? element = some family →
    ∃ element', element'.same element ∧ c.Shapes ctx element' family

theorem Coherent.shape_of_isShape (h : c.Coherent ctx) {id : RegistrationId} (hid : c.IsShape id) :
    ∃ element, ∃ shape ∈ shapesOf ctx element, c.register[id]? = some shape := by
  obtain ⟨element, family, hfamily, hmem⟩ := hid
  obtain ⟨element', -, hshapes⟩ := h.shaped element family hfamily
  obtain ⟨shape, hshape, hregister, -⟩ := hshapes.of_mem hmem
  exact ⟨element', shape, hshape, hregister⟩

theorem Coherent.lt_of_isShape (h : c.Coherent ctx) {id : RegistrationId} (hid : c.IsShape id) :
    id < c.size := by
  obtain ⟨_, _, -, hregister⟩ := h.shape_of_isShape hid
  exact lt_of_register hregister

/-- The second container differs from the first in what was remarked and resolved only. -/
structure Restates (a b : Container) : Prop where
  grows : a.Grows b
  registrations : b.registrations = a.registrations
  byType : b.byType = a.byType
  families : b.families = a.families
  specialized (id : RegistrationId) : .specialized id ∈ b.journal → .specialized id ∈ a.journal

theorem Restates.register (h : a.Restates b) : b.register = a.register := by
  unfold Container.register
  rw [h.registrations]

theorem restates_depth (c : Container) (depth : Nat) :
    c.Restates { c with specializationDepth := depth } :=
  ⟨Grows.of_eq rfl rfl rfl rfl (List.prefix_refl _), rfl, rfl, rfl, fun _ h => h⟩

theorem restates_note (c : Container) {event : Event} (h : ∀ id, event ≠ .specialized id) :
    c.Restates (c.note event) := by
  refine ⟨grows_note c event, rfl, rfl, rfl, fun id hid => ?_⟩
  exact (List.mem_append.1 hid).resolve_right fun hlast => h id (List.mem_singleton.1 hlast).symm

theorem restates_conclude (ctx : Context) (c : Container) (id : RegistrationId)
    (resolution : Resolution) : c.Restates (conclude ctx c id resolution).1 := by
  rw [conclude_fst]
  have hnoted : (c.store resolution).Restates
      ((c.store resolution).note (.resolved id resolution.parameters)) :=
    restates_note _ fun _ h => by cases h
  refine ⟨(grows_store c resolution).trans hnoted.grows, store_registrations c resolution, ?_,
    store_families c resolution, fun id hid => ?_⟩
  · unfold store note
    split <;> rfl
  · rw [← store_journal c resolution]
    exact hnoted.specialized id hid

/-- An invariant of what is registered: only updates that register something have to keep it. -/
structure Maintained (ctx : Context) (P : Container → Prop) : Prop where
  congr {a b : Container} : a.Restates b → P a → P b
  family {c : Container} {target element : TypeExpr} :
    c.servicesFor target = [] → ctx.settings.collectionElement? target = some element →
    c.families.get? element = none → P c → P (c.addFamily ctx element (c.members ctx element))
  redirect {c : Container} {target : TypeExpr} {source : Registration} :
    c.Opens ctx target source →
    c.underKey source.key (c.servicesFor (closedType target source)) ≠ [] →
    ¬ (closedType target source).same target → P c →
    P (c.add ctx (aliasOf target (closedType target source) source))
  specialize {c : Container} {target : TypeExpr} {source : Registration} :
    c.Opens ctx target source →
    c.underKey source.key (c.servicesFor (closedType target source)) = [] → P c →
    P (c.addSpecialization ctx (closedOver target source))

namespace Maintained

variable {P : Container → Prop} (h : Maintained ctx P)
include h

theorem entered {target : TypeExpr} {source : Registration} (hopens : c.Opens ctx target source)
    (hnew : c.underKey source.key (c.servicesFor (closedType target source)) = []) (hc : P c) :
    P (c.entered ctx target source) :=
  h.congr (restates_depth _ _) (h.specialize hopens hnew hc)

theorem left (hc : P c) : P c.left := h.congr (restates_depth c _) hc

theorem conclude (id : RegistrationId) (resolution : Resolution) (hc : P c) :
    P (conclude ctx c id resolution).1 := h.congr (restates_conclude ctx c id resolution) hc

theorem kept : Kept ctx fun _ a b => P a → P b where
  refl _ _ hc := hc
  trans hab hbc ha := hbc (hab ha)
  remark c event hremark hc :=
    h.congr (restates_note c fun id hid => by rw [hid] at hremark; cases hremark) hc
  family hfree helement hnew hc := h.family hfree helement hnew hc
  redirect hopens hold hother hc := h.redirect hopens hold hother hc
  nested hopens hnew _ _ hchecked hc := h.left (hchecked (h.entered hopens hnew hc))
  stopped _ _ _ _ hc := hc
  conclude _ _ _ hresolved hc := h.conclude _ _ (hresolved hc)

end Maintained

/-- What depends on the registrations and their tables only is maintained if registering a service
and putting one into a collection keep it. -/
theorem maintained_of_add {P : Container → Prop}
    (hcongr : ∀ {a b : Container}, b.registrations = a.registrations → b.byType = a.byType →
      P a → P b)
    (hadd : ∀ {c : Container} (service : Service), P c → P (c.add ctx service))
    (henlist : ∀ {c : Container} (element : TypeExpr) (member : RegistrationId),
      P c → P (c.enlist element member)) : Maintained ctx P where
  congr hrestates ha := hcongr hrestates.registrations hrestates.byType ha
  family {c target element} _ _ _ hc := by
    have haddAll (services : List Service) (b : Container) (hb : P b) :
        P (b.addAll ctx services) := by
      induction services generalizing b with
      | nil => exact hb
      | cons service services ih => exact ih _ (hadd service hb)
    exact hcongr (a := c.addAll ctx _) rfl rfl (haddAll _ c hc)
  redirect _ _ _ hc := hadd _ hc
  specialize {c _ _} _ _ hc := addSpecialization_induct _ _
    (hcongr (a := c.add ctx _) rfl rfl (hadd _ hc)) (fun _ _ _ hb => hadd _ hb)
    fun _ element hb => henlist element _ hb

namespace Coherent

theorem of_extends (ha : a.Coherent ctx) (h : Extends a b) (hlisted : b.Listed)
    (hfamilies : b.families = a.families) : b.Coherent ctx := by
  obtain ⟨hcollect, hgrows⟩ := h ha.collect
  refine ⟨hlisted, hcollect, fun element family hf => ?_⟩
  rw [hfamilies] at hf
  obtain ⟨element', hsame, hshapes⟩ := ha.shaped element family hf
  exact ⟨element', hsame, hshapes.grow hgrows⟩

theorem add (h : c.Coherent ctx) (service : Service) : (c.add ctx service).Coherent ctx :=
  h.of_extends (extends_add c ctx service) (h.listed.add ctx service) rfl

theorem note (h : c.Coherent ctx) (event : Event) : (c.note event).Coherent ctx :=
  h.of_extends (extends_note c event) (h.listed.of_eq rfl rfl) rfl

theorem enlist (h : c.Coherent ctx) (element : TypeExpr) (member : RegistrationId) :
    (c.enlist element member).Coherent ctx :=
  h.of_extends (extends_enlist c element member) (h.listed.enlist element member)
    (enlist_families c element member)

theorem addFamily (h : c.Coherent ctx) {element : TypeExpr} (ids : List RegistrationId)
    (hnew : c.families.get? element = none) : (c.addFamily ctx element ids).Coherent ctx := by
  obtain ⟨hcollect, hgrows⟩ := extends_addFamily c ctx ids hnew h.collect
  refine ⟨?_, hcollect, fun other family hf => ?_⟩
  · exact (h.listed.addAll ctx _).of_eq rfl rfl
  · rw [addFamily_families, TypeMap.get?_insert] at hf
    split at hf
    · next hsame =>
      obtain rfl := Option.some.inj hf
      exact ⟨element, hsame, shapes_addFamily c ctx element ids⟩
    · obtain ⟨element', hsame, hshapes⟩ := h.shaped other family hf
      exact ⟨element', hsame, hshapes.grow hgrows⟩

theorem addSpecialization (h : c.Coherent ctx) (template : Service) :
    (c.addSpecialization ctx template).Coherent ctx :=
  addSpecialization_induct c template ((h.add template).note _) (fun _ _ _ hb => hb.add _)
    fun _ element hb => hb.enlist element _

end Coherent

theorem maintained_coherent (ctx : Context) : Maintained ctx (Coherent ctx) where
  congr := by
    intro a b h ha
    refine ⟨ha.listed.of_eq h.register h.byType, ?_, ?_⟩
    · intro id hid
      unfold IsEnumerable at hid
      rw [h.families] at hid
      rw [registration?, h.registrations]
      exact ha.collect id hid
    · intro element family hf
      rw [h.families] at hf
      obtain ⟨element', hsame, hshapes⟩ := ha.shaped element family hf
      exact ⟨element', hsame, hshapes.grow h.grows⟩
  family _ _ hnew hc := hc.addFamily _ hnew
  redirect _ _ _ hc := hc.add _
  specialize _ _ hc := hc.addSpecialization _

/-- What holds of the container stays true of the grown one. -/
theorem kept_coherent (ctx : Context) :
    Kept ctx fun _ a b => a.Coherent ctx → b.Coherent ctx := (maintained_coherent ctx).kept

theorem coherent_empty (ctx : Context) : empty.Coherent ctx := by
  refine ⟨?_, ?_, ?_⟩
  · intro type id
    simp [servicesFor, register, empty]
  · rintro id ⟨element, family, hf, -⟩
    cases hf
  · intro element family hf
    cases hf

theorem Reachable.coherent (hc : Reachable ctx c) : c.Coherent ctx :=
  hc.invariant (coherent_empty ctx) (fun _ service hb => hb.add service)
    fun b id hb => (kept_coherent ctx).check b id hb

end Container
end Wiring
