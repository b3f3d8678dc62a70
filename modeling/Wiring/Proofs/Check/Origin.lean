import Wiring.Proofs.Check.Answer

/-!
Where the registrations come from that nobody declared. A check registers the closed types it
specializes, their bases, the names under which a closed type that was there before was asked for,
and the shapes of collections; nothing else. The first two are constructed as a specialization is,
which is checked at once. The last two only stand in for a type that others construct.
-/

namespace Wiring.Container

/-- The registration is there for requests that something else has to serve: it names a closed type
that was registered before, or it is a shape of a collection. -/
inductive StandsIn (ctx : Context) (c : Container) (id : RegistrationId) (service : Service) : Prop
  | redirect {source existing : Service} {earlier : RegistrationId} :
      c.Closes ctx service.type source →
      service.implementation = some (source.resolvedType.construct service.type.args) →
      earlier < id → c.register[earlier]? = some existing →
      existing.type.same (source.resolvedType.construct service.type.args) →
      StandsIn ctx c id service
  | shape : c.IsShape id → StandsIn ctx c id service

inductive Origin (ctx : Context) (c : Container) (id : RegistrationId) (service : Service) : Prop
  | specialized :
      .specialized id ∈ c.journal → service.implementation = none → Origin ctx c id service
  | base {closed : RegistrationId} {template : Service} {type : TypeExpr} :
      .specialized closed ∈ c.journal → closed < id → c.register[closed]? = some template →
      template.implementation = none → type ∈ servedBases ctx template.type →
      service = mirrorOf template template.type type → Origin ctx c id service
  | standIn : c.StandsIn ctx id service → Origin ctx c id service

/-- All registrations but the first `count` come from checks. -/
def Originates (ctx : Context) (count : Nat) (c : Container) : Prop :=
  ∀ id service, count ≤ id → c.register[id]? = some service → c.Origin ctx id service

variable {ctx : Context} {count : Nat} {a b c : Container}

theorem StandsIn.grow {id : RegistrationId} {service : Service} (h : a.StandsIn ctx id service)
    (hgrows : a.Grows b) : b.StandsIn ctx id service := by
  cases h with
  | redirect hcloses himplementation hlt hearlier htype =>
    exact .redirect (hcloses.grow hgrows) himplementation hlt (hgrows.register_eq_some hearlier)
      htype
  | shape h => exact .shape (h.grow hgrows)

theorem Origin.grow {id : RegistrationId} {service : Service} (h : a.Origin ctx id service)
    (hgrows : a.Grows b) : b.Origin ctx id service := by
  cases h with
  | specialized hid himplementation =>
    exact .specialized (hgrows.journal.subset hid) himplementation
  | base hclosed hlt htemplate himplementation hbase hservice =>
    exact .base (hgrows.journal.subset hclosed) hlt (hgrows.register_eq_some htemplate)
      himplementation hbase hservice
  | standIn h => exact .standIn (h.grow hgrows)

/-- Growth by services of known origin. -/
theorem Originates.append (h : a.Originates ctx count) (hgrows : a.Grows b) {new : List Service}
    (hregister : b.register = a.register ++ new)
    (hnew : ∀ (i : Nat) service, new[i]? = some service → b.Origin ctx (a.size + i) service) :
    b.Originates ctx count := by
  intro id service hcount hid
  rw [hregister, List.getElem?_append, length_register] at hid
  split at hid
  · exact (h id service hcount hid).grow hgrows
  · have hplace : a.size + (id - a.size) = id := by omega
    rw [← hplace]
    exact hnew _ service hid

theorem originates_addFamily (h : c.Originates ctx count)
    {element : TypeExpr} (ids : List RegistrationId) (hnew : c.families.get? element = none) :
    (c.addFamily ctx element ids).Originates ctx count := by
  refine h.append (grows_addFamily c ctx ids hnew) (register_addFamily c ctx element ids) ?_
  intro i service hi
  have hlt : i < 4 := (List.getElem?_eq_some_iff.1 hi).1
  refine .standIn (.shape ⟨element, _, families_addFamily_self c ctx element ids, ?_⟩)
  have hi : i = 0 ∨ i = 1 ∨ i = 2 ∨ i = 3 := by omega
  rcases hi with rfl | rfl | rfl | rfl <;> simp [Family.ids]

theorem originates_redirect (hc : c.Coherent ctx) (h : c.Originates ctx count) {target : TypeExpr}
    {source : Registration} (hopens : c.Opens ctx target source)
    (hold : c.underKey source.key (c.servicesFor (closedType target source)) ≠ []) :
    (c.add ctx (aliasOf target (closedType target source) source)).Originates ctx count := by
  have hgrows := grows_add c ctx (aliasOf target (closedType target source) source)
  refine h.append hgrows (register_add c ctx _) ?_
  intro i service hi
  obtain ⟨rfl, rfl⟩ :
      i = 0 ∧ (aliasOf target (closedType target source) source).plain = service := by
    simpa [List.getElem?_singleton, eq_comm] using hi
  obtain ⟨earlier, hearlier⟩ := List.exists_mem_of_ne_nil _ hold
  obtain ⟨existing, hexisting, htype, -⟩ := (mem_underKey_servicesFor hc.listed).1 hearlier
  exact .standIn (.redirect ((hopens.closes hc).grow hgrows) rfl (lt_of_register hexisting)
    (hgrows.register_eq_some hexisting) htype)

theorem originates_addSpecialization (hc : c.Coherent ctx) (h : c.Originates ctx count)
    (template : Service) (htemplate : template.implementation = none) :
    (c.addSpecialization ctx template).Originates ctx count := by
  have hgrows := (extends_addSpecialization c ctx template hc.collect).2
  have hregister := register_addSpecialization c ctx template
  have hjournal : .specialized c.size ∈ (c.addSpecialization ctx template).journal := by
    rw [addSpecialization_view (·.journal) ctx (fun _ _ => rfl) enlist_journal]
    exact List.mem_append_right _ (List.mem_singleton_self _)
  have hclosed := register_addSpecialization_self c ctx template
  refine h.append hgrows hregister fun i service hi => ?_
  cases i with
  | zero =>
    cases hi
    exact .specialized hjournal htemplate
  | succ i =>
    rw [List.getElem?_cons_succ, List.getElem?_map] at hi
    obtain ⟨base, hbase, rfl⟩ := Option.map_eq_some_iff.1 hi
    exact .base hjournal (Nat.lt_add_of_pos_right (Nat.succ_pos i)) hclosed htemplate
      (List.mem_of_getElem? hbase) rfl

theorem maintained_originates (ctx : Context) (count : Nat) :
    Maintained ctx fun c => c.Coherent ctx ∧ c.Originates ctx count where
  congr := by
    rintro a b hrestates ⟨ha, h⟩
    refine ⟨(maintained_coherent ctx).congr hrestates ha, ?_⟩
    intro id service hcount hid
    rw [hrestates.register] at hid
    exact (h id service hcount hid).grow hrestates.grows
  family hfree helement hnew := by
    rintro ⟨hc, h⟩
    exact ⟨(maintained_coherent ctx).family hfree helement hnew hc,
      originates_addFamily h _ hnew⟩
  redirect hopens hold hother := by
    rintro ⟨hc, h⟩
    exact ⟨(maintained_coherent ctx).redirect hopens hold hother hc,
      originates_redirect hc h hopens hold⟩
  specialize hopens hnew := by
    rintro ⟨hc, h⟩
    exact ⟨(maintained_coherent ctx).specialize hopens hnew hc,
      originates_addSpecialization hc h _ rfl⟩

/-- What stands in for a type constructs one that is registered, not later than itself. -/
theorem StandsIn.mem_servicesFor (hc : c.Coherent ctx) {id : RegistrationId} {service : Service}
    (hid : c.register[id]? = some service) (h : c.StandsIn ctx id service) :
    ∃ earlier ≤ id, earlier ∈ c.servicesFor service.resolvedType := by
  cases h with
  | redirect _ himplementation hlt hearlier htype =>
    refine ⟨_, Nat.le_of_lt hlt, (hc.listed _ _).2 ⟨_, hearlier, ?_⟩⟩
    rwa [Service.resolvedType, himplementation]
  | shape h =>
    obtain ⟨element, family, hfamily, hmem⟩ := h
    obtain ⟨element', -, hshapes⟩ := hc.shaped element family hfamily
    obtain ⟨shape, hshape, hid', hle⟩ := hshapes.of_mem hmem
    obtain rfl := Option.some.inj (hid'.symm.trans hid)
    have harray := resolvedType_of_mem_shapesOf hshape
    refine ⟨family.array, hle, (hc.listed _ _).2 ⟨_, hshapes.shapes 0 _ rfl, ?_⟩⟩
    rw [harray]
    exact TypeExpr.same_refl _

/-- Whatever a check registers constructs a type that is registered. -/
theorem Origin.mem_servicesFor (hc : c.Coherent ctx) {id : RegistrationId} {service : Service}
    (hid : c.register[id]? = some service) (h : c.Origin ctx id service) :
    ∃ earlier ≤ id, earlier ∈ c.servicesFor service.resolvedType := by
  cases h with
  | specialized _ himplementation =>
    refine ⟨id, Nat.le_refl _, (hc.listed _ _).2 ⟨service, hid, ?_⟩⟩
    rw [Service.resolvedType, himplementation]
    exact TypeExpr.same_refl _
  | base _ hlt htemplate _ _ hservice =>
    refine ⟨_, Nat.le_of_lt hlt, (hc.listed _ _).2 ⟨_, htemplate, ?_⟩⟩
    rw [hservice]
    exact TypeExpr.same_refl _
  | standIn h => exact h.mem_servicesFor hc hid

end Wiring.Container
