import Wiring.Catalog.Basic
import Wiring.Proofs.Check.Answer
import Wiring.Proofs.Check.Fallback

/-!
The families of a container. Each element type has one, whose four registrations stand in a row
behind those of the families before. Whether a request for a shape finds the registration of that
shape or only the family, it comes to the enumerable of the family.
-/

namespace Wiring

/-- The names of the shapes tell them apart. -/
def Settings.NamesApart (settings : Settings) : Prop :=
  [settings.enumerable, settings.readOnlyCollection, settings.readOnlyList].Nodup

instance (settings : Settings) : Decidable settings.NamesApart :=
  inferInstanceAs (Decidable (List.Nodup _))

namespace Container

variable {ctx : Context} {a b c : Container}

theorem Shapes.mem_ids {element : TypeExpr} {family : Family} (h : c.Shapes ctx element family)
    {id : RegistrationId} :
    id ∈ family.ids ↔ family.array ≤ id ∧ id ≤ family.array + 3 := by
  rw [h.ids]
  grind

theorem Shapes.enumerable_eq {element : TypeExpr} {family : Family}
    (h : c.Shapes ctx element family) : family.enumerable = family.array + 3 := by
  have hids := h.ids
  simp only [Family.ids, List.cons.injEq] at hids
  exact hids.2.2.2.1

theorem Shapes.lt_of_mem {element : TypeExpr} {family : Family} (h : c.Shapes ctx element family)
    {id : RegistrationId} (hid : id ∈ family.ids) : id < c.size := by
  obtain ⟨shape, -, hshape, -⟩ := h.of_mem hid
  exact lt_of_register hshape

/-- No old registration begins to collect. -/
theorem Grows.collects_of_lt (h : a.Grows b) {id : RegistrationId} (hid : id < a.size)
    {r : Registration} (hr : b.registration? id = some r) (hcollects : r.collected.isSome) :
    ∃ old, a.registration? id = some old ∧ old.collected.isSome := by
  obtain ⟨old, hold⟩ := registration?_isSome hid
  obtain ⟨r', hr', hsame⟩ := h.registrations id old hold
  obtain rfl := Option.some.inj (hr.symm.trans hr')
  refine ⟨old, hold, ?_⟩
  rcases hsame with rfl | ⟨-, ids, -, hids, -⟩
  · exact hcollects
  · rw [hids]
    rfl

theorem collected_addFamily (c : Container) (ctx : Context) (element : TypeExpr)
    (ids : List RegistrationId) : (c.addFamily ctx element ids).registrations.map (·.collected) =
      c.registrations.map (·.collected) ++ [none, none, none, some ids] := by
  simp [addFamily, addAll, registrationOf]

/-- Of the registrations of a new family the last one collects. -/
theorem eq_last_of_collects {element : TypeExpr} {ids : List RegistrationId}
    {id : RegistrationId} (hid : c.size ≤ id) {r : Registration}
    (hr : (c.addFamily ctx element ids).registration? id = some r)
    (hcollects : r.collected.isSome) : id = c.size + 3 := by
  have hcollected : ((c.addFamily ctx element ids).registrations.map (·.collected))[id]? =
      some r.collected := by
    rw [List.getElem?_map]
    exact congrArg _ hr
  rw [collected_addFamily, List.getElem?_append_right (by rwa [List.length_map]), List.length_map]
    at hcollected
  match hi : id - c.registrations.length with
  | 0 | 1 | 2 =>
    rw [hi] at hcollected
    obtain hnone := Option.some.inj hcollected
    rw [← hnone] at hcollects
    cases hcollects
  | 3 => exact (Nat.sub_eq_iff_eq_add' hid).1 hi
  | i + 4 =>
    rw [hi] at hcollected
    cases hcollected

/-- The families stand in the order in which they were made, and of their registrations only the
enumerables collect. -/
structure Families (ctx : Context) (c : Container) : Prop where
  apart : c.families.Pairwise fun first second =>
    ¬ first.1.same second.1 ∧ first.2.array + 3 < second.2.array
  shapes : ∀ entry ∈ c.families, c.Shapes ctx entry.1 entry.2
  plain : ∀ entry ∈ c.families, ∀ id ∈ entry.2.ids, ∀ r, c.registration? id = some r →
    r.collected.isSome → id = entry.2.enumerable

namespace Families

theorem grow (h : a.Families ctx) (hgrows : a.Grows b) (hfamilies : b.families = a.families) :
    b.Families ctx where
  apart := by rw [hfamilies]; exact h.apart
  shapes entry hentry := by
    rw [hfamilies] at hentry
    exact (h.shapes entry hentry).grow hgrows
  plain entry hentry id hid r hr hcollects := by
    rw [hfamilies] at hentry
    obtain ⟨old, hold, hcollects⟩ :=
      hgrows.collects_of_lt ((h.shapes entry hentry).lt_of_mem hid) hr hcollects
    exact h.plain entry hentry id hid old hold hcollects

theorem addFamily (h : c.Families ctx) {element : TypeExpr} (ids : List RegistrationId)
    (hnew : c.families.get? element = none) : (c.addFamily ctx element ids).Families ctx := by
  have hgrows := grows_addFamily c ctx ids hnew
  have hfamilies : (c.addFamily ctx element ids).families =
      c.families ++ [(element, ⟨c.size, c.size + 1, c.size + 2, c.size + 3⟩)] :=
    TypeMap.insert_of_get?_eq_none hnew _
  constructor
  · rw [hfamilies, List.pairwise_append]
    refine ⟨h.apart, List.pairwise_singleton _ _, fun entry hentry last hlast => ?_⟩
    obtain rfl := List.mem_singleton.1 hlast
    refine ⟨TypeMap.get?_eq_none.1 hnew entry hentry, ?_⟩
    have hshapes := h.shapes entry hentry
    have hmem : entry.2.array + 3 ∈ entry.2.ids := by
      rw [hshapes.mem_ids]
      grind
    exact hshapes.lt_of_mem hmem
  · intro entry hentry
    rw [hfamilies, List.mem_append, List.mem_singleton] at hentry
    rcases hentry with hentry | rfl
    · exact (h.shapes entry hentry).grow hgrows
    · exact shapes_addFamily c ctx element ids
  · intro entry hentry id hid r hr hcollects
    rw [hfamilies, List.mem_append, List.mem_singleton] at hentry
    rcases hentry with hentry | rfl
    · obtain ⟨old, hold, hcollects⟩ :=
        hgrows.collects_of_lt ((h.shapes entry hentry).lt_of_mem hid) hr hcollects
      exact h.plain entry hentry id hid old hold hcollects
    · have hlast := (shapes_addFamily c ctx element ids).mem_ids.1 hid
      exact eq_last_of_collects hlast.1 hr hcollects

/-- The enumerable of a family tells its element type. -/
theorem same_of_enumerable_eq (h : c.Families ctx) {first second : TypeExpr}
    {family other : Family} (hfamily : c.families.get? first = some family)
    (hother : c.families.get? second = some other) (heq : family.enumerable = other.enumerable) :
    first.same second := by
  obtain ⟨entry, hentry, hfirst, rfl⟩ := TypeMap.get?_eq_some hfamily
  obtain ⟨entry', hentry', hsecond, rfl⟩ := TypeMap.get?_eq_some hother
  rw [(h.shapes entry hentry).enumerable_eq, (h.shapes entry' hentry').enumerable_eq] at heq
  have harray : entry.2.array = entry'.2.array := Nat.add_right_cancel heq
  obtain ⟨i, hi, rfl⟩ := List.getElem_of_mem hentry
  obtain ⟨j, hj, rfl⟩ := List.getElem_of_mem hentry'
  have hapart := List.pairwise_iff_getElem.1 h.apart
  rcases Nat.lt_trichotomy i j with hlt | rfl | hlt
  · have hlt := (hapart i j hi hj hlt).2
    rw [harray] at hlt
    exact absurd hlt (Nat.not_lt_of_le (Nat.le_add_right _ _))
  · rw [TypeExpr.same_comm] at hfirst
    exact TypeExpr.same_trans hfirst hsecond
  · have hlt := (hapart j i hj hi hlt).2
    rw [harray] at hlt
    exact absurd hlt (Nat.not_lt_of_le (Nat.le_add_right _ _))

end Families

/-- The registrations of a type are listed in the order in which they were added. -/
def Ordered (c : Container) : Prop := ∀ type, (c.servicesFor type).Pairwise (· < ·)

theorem Ordered.add (h : c.Ordered) (hlisted : c.Listed) (ctx : Context) (service : Service) :
    (c.add ctx service).Ordered := by
  intro type
  rw [servicesFor_add]
  split
  · refine List.pairwise_append.2 ⟨h type, List.pairwise_singleton _ _, ?_⟩
    intro id hid last hlast
    obtain rfl := List.mem_singleton.1 hlast
    exact hlisted.lt hid
  · exact h type

theorem Ordered.of_eq (h : a.Ordered) (hbyType : b.byType = a.byType) : b.Ordered := by
  intro type
  rw [servicesFor, hbyType]
  exact h type

theorem Ordered.addAll (h : c.Ordered) (hlisted : c.Listed) (ctx : Context)
    (services : List Service) : (c.addAll ctx services).Ordered := by
  induction services generalizing c with
  | nil => exact h
  | cons service services ih => exact ih (h.add hlisted ctx service) (hlisted.add ctx service)

structure Arranged (ctx : Context) (c : Container) : Prop where
  coherent : c.Coherent ctx
  families : c.Families ctx
  ordered : c.Ordered

theorem Arranged.add (h : c.Arranged ctx) (service : Service) : (c.add ctx service).Arranged ctx :=
  ⟨h.coherent.add service, h.families.grow (grows_add c ctx service) rfl,
    h.ordered.add h.coherent.listed ctx service⟩

theorem Arranged.note (h : c.Arranged ctx) (event : Event) : (c.note event).Arranged ctx :=
  ⟨h.coherent.note event, h.families.grow (grows_note c event) rfl, h.ordered.of_eq rfl⟩

theorem Arranged.enlist (h : c.Arranged ctx) (element : TypeExpr) (member : RegistrationId) :
    (c.enlist element member).Arranged ctx :=
  ⟨h.coherent.enlist element member,
    h.families.grow (grows_enlist h.coherent.collect element member)
      (enlist_families c element member),
    h.ordered.of_eq (enlist_byType c element member)⟩

theorem Arranged.addFamily (h : c.Arranged ctx) {element : TypeExpr} (ids : List RegistrationId)
    (hnew : c.families.get? element = none) : (c.addFamily ctx element ids).Arranged ctx :=
  ⟨h.coherent.addFamily ids hnew, h.families.addFamily ids hnew,
    (h.ordered.addAll h.coherent.listed ctx _).of_eq rfl⟩

theorem maintained_arranged (ctx : Context) : Maintained ctx (Arranged ctx) where
  congr hrestates h :=
    ⟨(maintained_coherent ctx).congr hrestates h.coherent,
      h.families.grow hrestates.grows hrestates.families, h.ordered.of_eq hrestates.byType⟩
  family _ _ hnew h := h.addFamily _ hnew
  redirect _ _ _ h := h.add _
  specialize _ _ h := addSpecialization_induct _ _ ((h.add _).note _) (fun _ _ _ hb => hb.add _)
    fun _ element hb => hb.enlist element _

theorem Reachable.arranged (hc : Reachable ctx c) : c.Arranged ctx := by
  refine hc.invariant ⟨coherent_empty ctx, ?_, ?_⟩
    (fun b service hb => hb.add service) fun b id hb => (maintained_arranged ctx).kept.check b id hb
  · exact ⟨List.Pairwise.nil, fun entry hentry => absurd hentry List.not_mem_nil,
      fun entry hentry => absurd hentry List.not_mem_nil⟩
  · intro type
    exact List.Pairwise.nil

theorem anonymous_of_mem_shapesOf {element : TypeExpr} {shape : Service}
    (h : shape ∈ shapesOf ctx element) : shape.key = none ∧ shape.lifetime = .transient := by
  simp only [shapesOf, List.mem_cons, List.not_mem_nil, or_false] at h
  rcases h with rfl | rfl | rfl | rfl <;> exact ⟨rfl, rfl⟩

/-- No two shapes have the same type. -/
theorem shapesOf_injective (hnames : ctx.settings.NamesApart) {element : TypeExpr} {i j : Nat}
    {first second : Service} (hi : (shapesOf ctx element)[i]? = some first)
    (hj : (shapesOf ctx element)[j]? = some second) (hsame : first.type.same second.type) :
    i = j := by
  let head (service : Service) : TypeKind × String := (service.type.kind, service.type.name)
  have hnodup : ((shapesOf ctx element).map head).Nodup := by
    simp only [Settings.NamesApart, List.nodup_cons, List.mem_cons, not_or] at hnames
    obtain ⟨⟨hec, hel, -⟩, ⟨hcl, -⟩, -⟩ := hnames
    simp [shapesOf, head, TypeExpr.arrayOf, Settings.readOnlyListOf, Settings.readOnlyCollectionOf,
      Settings.enumerableOf, Ne.symm hec, Ne.symm hel, Ne.symm hcl]
  have hlt : i < ((shapesOf ctx element).map head).length := by
    rw [List.length_map]
    exact (List.getElem?_eq_some_iff.1 hi).1
  have hhead : head first = head second :=
    Prod.ext (TypeExpr.kind_eq_of_same hsame) (TypeExpr.name_eq_of_same hsame)
  refine (List.getElem?_inj hlt hnodup).1 ?_
  rw [List.getElem?_map, List.getElem?_map, hi, hj]
  exact congrArg some hhead

/-- At most one shape is registered for a type for which nothing else is. -/
theorem Arranged.servicesFor_eq (h : c.Arranged ctx) (hnames : ctx.settings.NamesApart)
    {element target : TypeExpr} {family : Family}
    (hfamily : c.families.get? element = some family)
    (hown : ∀ id ∈ c.servicesFor target, id ∈ family.ids) :
    c.servicesFor target = [] ∨ ∃ id ∈ family.ids, c.servicesFor target = [id] ∧
      c.underKey none [id] = [id] := by
  obtain ⟨element', -, hshapes⟩ := h.coherent.shaped element family hfamily
  have hshape (id : RegistrationId) (hid : id ∈ c.servicesFor target) :
      ∃ i shape, id = family.array + i ∧ (shapesOf ctx element')[i]? = some shape ∧
        c.register[id]? = some shape ∧ shape.type.same target := by
    obtain ⟨i, shape, hplace, hi, hregister⟩ := hshapes.shape_of_mem (hown id hid)
    obtain ⟨service, hservice, hsame⟩ := (h.coherent.listed target id).1 hid
    obtain rfl := Option.some.inj (hregister.symm.trans hservice)
    exact ⟨i, shape, hplace, hi, hregister, hsame⟩
  match hservices : c.servicesFor target with
  | [] => exact Or.inl rfl
  | [id] =>
    have hmem : id ∈ c.servicesFor target := by simp [hservices]
    obtain ⟨i, shape, -, hi, hregister, -⟩ := hshape id hmem
    obtain ⟨r, hr, rfl⟩ := register_eq_some_iff.1 hregister
    have hkey : r.key = none := (anonymous_of_mem_shapesOf (List.mem_of_getElem? hi)).1
    exact Or.inr ⟨id, hown id hmem, rfl, by simp [underKey, hr, hkey]⟩
  | id :: next :: rest =>
    have hmem : id ∈ c.servicesFor target := by simp [hservices]
    have hmem' : next ∈ c.servicesFor target := by simp [hservices]
    obtain ⟨i, shape, rfl, hi, -, hsame⟩ := hshape id hmem
    obtain ⟨j, other, rfl, hj, -, hsame'⟩ := hshape next hmem'
    obtain rfl := shapesOf_injective hnames hi hj
      (TypeExpr.same_trans hsame (by rwa [TypeExpr.same_comm]))
    have hordered := h.ordered target
    rw [hservices] at hordered
    exact absurd (List.rel_of_pairwise_cons hordered List.mem_cons_self) (Nat.lt_irrefl _)

/-- What a request for the collection comes to. -/
def answerOf (c : Container) (family : Family) (requireNonEmpty : Bool) : Outcome :=
  if requireNonEmpty && c.isEmptyCollection family.enumerable then .undeclared
  else .selected family.enumerable

theorem selectCollection_of_family {element : TypeExpr} {family : Family}
    (hfamily : c.families.get? element = some family) (requireNonEmpty : Bool) :
    c.selectCollection ctx element requireNonEmpty = (c, c.answerOf family requireNonEmpty) := by
  unfold selectCollection answerOf
  rw [hfamily]
  dsimp only
  split <;> rfl

theorem Arranged.resolveTarget_shape (h : c.Arranged ctx) (hnames : ctx.settings.NamesApart)
    {element target : TypeExpr} {family : Family}
    (helement : ctx.settings.collectionElement? target = some element)
    (hfamily : c.families.get? element = some family)
    (hown : ∀ id ∈ c.servicesFor target, id ∈ family.ids) (check : Option Check)
    (requireNonEmpty : Bool) : resolveTarget ctx check c none target requireNonEmpty =
      (c, .ok (c.answerOf family requireNonEmpty)) := by
  unfold resolveTarget
  rcases h.servicesFor_eq hnames hfamily hown with hfree | ⟨id, hid, hservices, hkey⟩
  · simp [hfree, helement, selectCollection_of_family hfamily]
  · have hfollow : c.follow ctx id = family.enumerable := by
      rw [follow, h.coherent.familyOf?_eq hfamily hid]
    simp only [hservices, selectAmong, hkey, hfollow, answerOf]

/-- Where no shape of the collection is registered by others, a request for any shape adds nothing
and selects the enumerable. -/
theorem Arranged.resolveParameter_shape (h : c.Arranged ctx) (hnames : ctx.settings.NamesApart)
    (check : Option Check) {parameter : Parameter} {element target : TypeExpr} {family : Family}
    (hkey : parameter.key = none)
    (htarget : targetOf ctx (ctx.settings.unwrapNullable parameter.type).1 = target)
    (helement : ctx.settings.collectionElement? target = some element)
    (hfamily : c.families.get? element = some family)
    (hown : ∀ id ∈ c.servicesFor target, id ∈ family.ids) :
    (resolveParameter ctx check c parameter).1.registrations = c.registrations ∧
      ∃ p, (resolveParameter ctx check c parameter).2 = .ok p ∧ p.outcome =
        if parameter.requiresNonEmpty && c.isEmptyCollection family.enumerable then
          if Fallback.supplies ctx.fallback none target then .fallback else .undeclared
        else .selected family.enumerable := by
  have hresolved := h.resolveTarget_shape hnames helement hfamily hown check
    parameter.requiresNonEmpty
  unfold resolveParameter
  dsimp only
  rw [htarget, hkey, hresolved]
  dsimp only
  refine ⟨(agrees_asked ctx c none target _).registrations.symm, _, rfl, ?_⟩
  rw [askFallback_snd]
  unfold answerOf
  split
  · simp
  · simp

/-- The registration is transient and without a key; `collects` tells whether it has elements. -/
def StandsAs (c : Container) (id : RegistrationId) (type : TypeExpr)
    (implementation : Option TypeExpr) (collects : Bool) : Prop :=
  ∃ r, c.registration? id = some r ∧ r.type = type ∧ r.implementation = implementation ∧
    r.key = none ∧ r.lifetime = .transient ∧ r.collected.isSome = collects

/-- The registrations of the family are the four shapes of the collection. -/
structure Represents (ctx : Context) (c : Container) (element : TypeExpr) (family : Family) :
    Prop where
  array : c.StandsAs family.array (.arrayOf element) none false
  readOnlyList : c.StandsAs family.readOnlyList (ctx.settings.readOnlyListOf element)
    (some (.arrayOf element)) false
  readOnlyCollection : c.StandsAs family.readOnlyCollection
    (ctx.settings.readOnlyCollectionOf element) (some (.arrayOf element)) false
  enumerable : c.StandsAs family.enumerable (ctx.settings.enumerableOf element)
    (some (.arrayOf element)) true

theorem Arranged.represents (h : c.Arranged ctx) {entry : TypeExpr × Family}
    (hentry : entry ∈ c.families) : c.Represents ctx entry.1 entry.2 := by
  obtain ⟨element, family⟩ := entry
  have hshapes := h.families.shapes _ hentry
  have hplain := h.families.plain _ hentry
  have hfound := TypeMap.get?_of_mem (h.families.apart.imp fun hapart => hapart.1) hentry
  obtain ⟨collecting, ids, hcollecting, hids⟩ :=
    h.coherent.collect family.enumerable ⟨element, family, hfound, rfl⟩
  have hstands (i : Nat) (service : Service) (hi : (shapesOf ctx element)[i]? = some service) :
      c.StandsAs (family.array + i) service.type service.implementation (i == 3) := by
    obtain ⟨hkey, hlifetime⟩ := anonymous_of_mem_shapesOf (List.mem_of_getElem? hi)
    obtain ⟨r, hr, rfl⟩ := register_eq_some_iff.1 (hshapes.shapes i service hi)
    refine ⟨r, hr, rfl, rfl, hkey, hlifetime, ?_⟩
    by_cases hlast : i = 3
    · rw [hlast, ← hshapes.enumerable_eq, hcollecting] at hr
      obtain rfl := Option.some.inj hr
      simp [hlast, hids]
    · have hcollects : ¬ r.collected.isSome := fun hcollects => by
        have hlt : i < 4 := (List.getElem?_eq_some_iff.1 hi).1
        have hmem : family.array + i ∈ family.ids := by
          rw [hshapes.mem_ids]
          exact ⟨Nat.le_add_right _ _, Nat.add_le_add_left (Nat.le_of_lt_succ hlt) _⟩
        have henumerable := hplain _ hmem r hr hcollects
        rw [hshapes.enumerable_eq] at henumerable
        exact hlast (Nat.add_left_cancel henumerable)
      rw [beq_false_of_ne hlast]
      simpa using hcollects
  have hids := hshapes.ids
  simp only [Family.ids, List.cons.injEq, and_true, true_and] at hids
  obtain ⟨hlist, hcollection, henumerable⟩ := hids
  constructor
  · exact hstands 0 _ rfl
  · rw [hlist]
    exact hstands 1 _ rfl
  · rw [hcollection]
    exact hstands 2 _ rfl
  · rw [henumerable]
    exact hstands 3 _ rfl

/-- Each element type has at most one family, whose registrations are its own and are the four
shapes of the collection. If the shapes have different names, a request for any of them adds nothing
and selects the enumerable, unless others have registered the type that is asked for. -/
theorem Reachable.families_coherent (hc : Reachable ctx c) :
    c.families.Pairwise (fun first second =>
        ¬ first.1.same second.1 ∧ first.2.ids.Disjoint second.2.ids) ∧
      (∀ entry ∈ c.families, entry.2.ids.Nodup ∧ c.Represents ctx entry.1 entry.2) ∧
      (ctx.settings.NamesApart → ∀ (check : Option Check) (parameter : Parameter)
        (element target : TypeExpr) (family : Family), parameter.key = none →
        targetOf ctx (ctx.settings.unwrapNullable parameter.type).1 = target →
        ctx.settings.collectionElement? target = some element →
        c.families.get? element = some family → (∀ id ∈ c.servicesFor target, id ∈ family.ids) →
        (resolveParameter ctx check c parameter).1.registrations = c.registrations ∧
          ∃ p, (resolveParameter ctx check c parameter).2 = .ok p ∧ p.outcome =
            if parameter.requiresNonEmpty && c.isEmptyCollection family.enumerable then
              if Fallback.supplies ctx.fallback none target then .fallback else .undeclared
            else .selected family.enumerable) := by
  have h := hc.arranged
  refine ⟨?_, fun entry hentry => ⟨?_, h.represents hentry⟩, ?_⟩
  · refine h.families.apart.imp_of_mem fun {first second} hfirst hsecond hapart => ⟨hapart.1, ?_⟩
    intro id hid hid'
    have hle := ((h.families.shapes first hfirst).mem_ids.1 hid).2
    have hge := ((h.families.shapes second hsecond).mem_ids.1 hid').1
    exact absurd (Nat.lt_of_lt_of_le hapart.2 hge) (Nat.not_lt_of_le hle)
  · rw [(h.families.shapes entry hentry).ids]
    simp
  · intro hnames check parameter element target family hkey htarget helement hfamily hown
    exact h.resolveParameter_shape hnames check hkey htarget helement hfamily hown

namespace Handlers

def handler : TypeExpr := ⟨.interfaceType, "app::Handler", [], false⟩
def audit : TypeExpr := ⟨.classType, "app::Audit", [], false⟩
def filter : TypeExpr := ⟨.interfaceType, "app::Filter", [], false⟩
def dispatcher : TypeExpr := ⟨.classType, "app::Dispatcher", [], false⟩

def catalog : Catalog := .ofDefinitions [
  { Definition.built audit [] with bases := [handler] },
  .built dispatcher [⟨"handlers", Settings.enumerableOf {} handler, [], none⟩,
    ⟨"filters", Settings.readOnlyListOf {} filter, [], none⟩]]

def context : Context := { program := catalog.program }

/-- The check of the dispatcher made a collection of handlers and one of filters, which is empty. -/
def container : Container :=
  ((empty.addAll context [
    { type := handler, lifetime := .singleton, implementation := some audit },
    { type := dispatcher, lifetime := .singleton }]).check context 1).1

theorem reachable : Reachable context container := (Evolves.refl.addAll _).check 1

/-- The array of handlers, asked for by a deferred reference that may be null. -/
def later : Parameter :=
  ⟨"handlers", ⟨.classType, "core::Lazy", [TypeExpr.arrayOf handler], true⟩, [], none⟩

/-- A class with the name of a shape is no shape that is registered. -/
def required : Parameter :=
  ⟨"filters", ⟨.classType, "collections::Enumerable", [filter], false⟩, [.nonEmpty], none⟩

end Handlers

/-- The handlers are found by the registration of their array, and the filters, none of which there
are, by their family only. -/
theorem handlers_requested :
    (∃ p, (resolveParameter Handlers.context none Handlers.container Handlers.later).2 = .ok p ∧
        p.outcome = .selected 5) ∧
      ∃ p, (resolveParameter Handlers.context none Handlers.container Handlers.required).2 = .ok p ∧
        p.outcome = .undeclared := by
  have hselects := (Reachable.families_coherent Handlers.reachable).2.2 (by decide) none
  constructor
  · obtain ⟨-, p, hp, houtcome⟩ := hselects Handlers.later Handlers.handler
      (TypeExpr.arrayOf Handlers.handler) ⟨2, 3, 4, 5⟩ rfl rfl rfl (by decide +kernel)
      (by decide +kernel)
    exact ⟨p, hp, houtcome⟩
  · obtain ⟨-, p, hp, houtcome⟩ := hselects Handlers.required Handlers.filter
      ⟨.classType, "collections::Enumerable", [Handlers.filter], false⟩ ⟨6, 7, 8, 9⟩ rfl rfl rfl
      (by decide +kernel) (by decide +kernel)
    exact ⟨p, hp, houtcome⟩

end Container
end Wiring
