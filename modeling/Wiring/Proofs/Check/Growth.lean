import Wiring.Proofs.Check.Kept

/-!
A container only grows. A check, passed or failed, adds registrations behind those there are, adds
families of fresh numbers, and notes events behind the earlier ones. Of an old registration nothing
changes but the elements of a collection, which are appended; a type that has a resolution keeps
having one.
-/

namespace Wiring.Container

/-- The registration holds the elements of a collection made on request. -/
def IsEnumerable (c : Container) (id : RegistrationId) : Prop :=
  ∃ element family, c.families.get? element = some family ∧ family.enumerable = id

structure Grows (a b : Container) : Prop where
  registrations (id : RegistrationId) (r : Registration) : a.registration? id = some r →
    ∃ r', b.registration? id = some r' ∧ (r' = r ∨ a.IsEnumerable id ∧
      ∃ ids more, r.collected = some ids ∧ r' = { r with collected := some (ids ++ more) })
  families (element : TypeExpr) (family : Family) :
    a.families.get? element = some family → b.families.get? element = some family
  newFamilies (element : TypeExpr) (family : Family) : b.families.get? element = some family →
    a.families.get? element = some family ∨ ∀ id ∈ family.ids, a.size ≤ id
  resolved (type : TypeExpr) : (a.resolution? type).isSome → (b.resolution? type).isSome
  journal : a.journal <+: b.journal

/-- The enumerable of each family collects registrations. -/
def EnumerablesCollect (c : Container) : Prop :=
  ∀ id, c.IsEnumerable id → ∃ r ids, c.registration? id = some r ∧ r.collected = some ids

theorem registration?_eq_some_lt {c : Container} {id : RegistrationId} {r : Registration}
    (h : c.registration? id = some r) : id < c.size :=
  (List.getElem?_eq_some_iff.1 h).1

theorem registration?_isSome {c : Container} {id : RegistrationId} (h : id < c.size) :
    ∃ r, c.registration? id = some r := ⟨_, List.getElem?_eq_getElem h⟩

namespace Grows

variable {a b c : Container}

theorem of_eq (hregistrations : b.registrations = a.registrations)
    (hfamilies : b.families = a.families) (hresolutions : b.resolutions = a.resolutions)
    (hindex : b.resolutionIndex = a.resolutionIndex) (hjournal : a.journal <+: b.journal) :
    Grows a b where
  registrations id r hr := ⟨r, by rw [registration?, hregistrations]; exact hr, Or.inl rfl⟩
  families element family hf := by rw [hfamilies]; exact hf
  newFamilies element family hf := by rw [hfamilies] at hf; exact Or.inl hf
  resolved type ht := by
    rw [resolution?, hindex, hresolutions]
    exact ht
  journal := hjournal

theorem refl (c : Container) : Grows c c := of_eq rfl rfl rfl rfl (List.prefix_refl _)

theorem size_le (h : Grows a b) : a.size ≤ b.size := by
  refine Nat.le_of_not_lt fun hlt => ?_
  obtain ⟨r, hr⟩ := registration?_isSome hlt
  obtain ⟨r', hr', -⟩ := h.registrations _ r hr
  exact absurd (registration?_eq_some_lt hr') (Nat.lt_irrefl _)

/-- A registration constructs what it did, by the member it did. -/
theorem registration?_eq_some (h : Grows a b) {id : RegistrationId} {r : Registration}
    (hr : a.registration? id = some r) : ∃ r', b.registration? id = some r' ∧
      r'.resolvedType = r.resolvedType ∧ r'.member = r.member := by
  obtain ⟨r', hr', hsame⟩ := h.registrations id r hr
  refine ⟨r', hr', ?_⟩
  rcases hsame with rfl | ⟨-, ids, more, -, rfl⟩
  · exact ⟨rfl, rfl⟩
  · exact ⟨rfl, rfl⟩

/-- No old registration becomes the enumerable of a family. -/
theorem isEnumerable_of_lt (h : Grows a b) {id : RegistrationId} (hlt : id < a.size)
    (hid : b.IsEnumerable id) : a.IsEnumerable id := by
  obtain ⟨element, family, hf, rfl⟩ := hid
  rcases h.newFamilies element family hf with hold | hnew
  · exact ⟨element, family, hold, rfl⟩
  · exact absurd (hnew family.enumerable (by simp [Family.ids])) (Nat.not_le_of_lt hlt)

theorem trans (h₁ : Grows a b) (h₂ : Grows b c) : Grows a c where
  registrations id r hr := by
    obtain ⟨r', hr', hrr'⟩ := h₁.registrations id r hr
    obtain ⟨r'', hr'', hrr''⟩ := h₂.registrations id r' hr'
    refine ⟨r'', hr'', ?_⟩
    rcases hrr'' with rfl | ⟨hid, ids', more', hids', rfl⟩
    · exact hrr'
    · have hid := h₁.isEnumerable_of_lt (registration?_eq_some_lt hr) hid
      rcases hrr' with rfl | ⟨-, ids, more, hids, rfl⟩
      · exact Or.inr ⟨hid, ids', more', hids', rfl⟩
      · obtain rfl := Option.some.inj hids'
        exact Or.inr ⟨hid, ids, more ++ more', hids, by rw [List.append_assoc]⟩
  families element family hf := h₂.families element family (h₁.families element family hf)
  newFamilies element family hf := by
    rcases h₂.newFamilies element family hf with hb | hnew
    · exact h₁.newFamilies element family hb
    · exact Or.inr fun id hid => Nat.le_trans h₁.size_le (hnew id hid)
  resolved type ht := h₂.resolved type (h₁.resolved type ht)
  journal := h₁.journal.trans h₂.journal

end Grows

theorem grows_note (c : Container) (event : Event) : Grows c (c.note event) :=
  Grows.of_eq rfl rfl rfl rfl (List.prefix_append _ _)

theorem grows_add (c : Container) (ctx : Context) (service : Service) :
    Grows c (c.add ctx service) where
  registrations id r hr := by
    refine ⟨r, ?_, Or.inl rfl⟩
    rw [registration?_add, if_neg (Nat.ne_of_lt (registration?_eq_some_lt hr)), hr]
  families element family hf := hf
  newFamilies element family hf := Or.inl hf
  resolved type ht := ht
  journal := List.prefix_refl _

theorem grows_addAll (c : Container) (ctx : Context) (services : List Service) :
    Grows c (c.addAll ctx services) := by
  induction services generalizing c with
  | nil => exact Grows.refl c
  | cons service services ih => exact (grows_add c ctx service).trans (ih _)

theorem addFamily_families (c : Container) (ctx : Context) (element : TypeExpr)
    (ids : List RegistrationId) :
    (c.addFamily ctx element ids).families =
      c.families.insert element ⟨c.size, c.size + 1, c.size + 2, c.size + 3⟩ := rfl

theorem registration?_addFamily_enumerable (c : Container) (ctx : Context) (element : TypeExpr)
    (ids : List RegistrationId) :
    ∃ r, (c.addFamily ctx element ids).registration? (c.size + 3) = some r ∧
      r.collected = some ids := by
  let array := TypeExpr.arrayOf element
  let b := c.addAll ctx [
    { type := array, lifetime := .transient },
    { type := ctx.settings.readOnlyListOf element, lifetime := .transient,
      implementation := some array },
    { type := ctx.settings.readOnlyCollectionOf element, lifetime := .transient,
      implementation := some array }]
  let service : Service :=
    { type := ctx.settings.enumerableOf element, lifetime := .transient,
      implementation := some array, collected := some ids }
  have hsize : b.size = c.size + 3 := by simp [b, addAll]
  refine ⟨b.registrationOf ctx service, ?_, rfl⟩
  change (b.add ctx service).registration? (c.size + 3) = _
  rw [registration?_add, if_pos hsize.symm]

theorem grows_addFamily (c : Container) (ctx : Context) {element : TypeExpr}
    (ids : List RegistrationId) (hnew : c.families.get? element = none) :
    Grows c (c.addFamily ctx element ids) where
  registrations id r hr := (grows_addAll c ctx _).registrations id r hr
  families other family hf := by
    rw [addFamily_families, TypeMap.get?_insert, if_neg, hf]
    intro hsame
    rw [← TypeMap.get?_congr c.families hsame, hnew] at hf
    cases hf
  newFamilies other family hf := by
    rw [addFamily_families, TypeMap.get?_insert] at hf
    split at hf
    · obtain rfl := Option.some.inj hf
      right
      intro id hid
      simp only [Family.ids, List.mem_cons, List.not_mem_nil, or_false] at hid
      rcases hid with rfl | rfl | rfl | rfl <;> omega
    · exact Or.inl hf
  resolved type ht := ht
  journal := (grows_addAll c ctx _).journal

theorem registration?_enlist {c : Container} {element : TypeExpr} {family : Family}
    (hfamily : c.families.get? element = some family) (member id : RegistrationId) :
    (c.enlist element member).registration? id =
      (c.registration? id).map fun r => if family.enumerable = id then r.collect member else r := by
  unfold enlist
  rw [hfamily]
  simp only [registration?, List.getElem?_modify]
  rfl

/-- An element is appended, unless it is among the elements already. -/
theorem collect_eq {r : Registration} {ids : List RegistrationId} (h : r.collected = some ids)
    (member : RegistrationId) :
    ∃ more, r.collect member = { r with collected := some (ids ++ more) } := by
  unfold Registration.collect
  rw [h]
  by_cases hmember : member ∈ ids
  · exact ⟨[], by simp [hmember]⟩
  · exact ⟨[member], by simp [hmember]⟩

theorem enlist_families (c : Container) (element : TypeExpr) (member : RegistrationId) :
    (c.enlist element member).families = c.families := by
  unfold enlist
  split <;> rfl

theorem enlist_resolutions (c : Container) (element : TypeExpr) (member : RegistrationId) :
    (c.enlist element member).resolutions = c.resolutions := by
  unfold enlist
  split <;> rfl

theorem enlist_resolutionIndex (c : Container) (element : TypeExpr) (member : RegistrationId) :
    (c.enlist element member).resolutionIndex = c.resolutionIndex := by
  unfold enlist
  split <;> rfl

theorem enlist_journal (c : Container) (element : TypeExpr) (member : RegistrationId) :
    (c.enlist element member).journal = c.journal := by
  unfold enlist
  split <;> rfl

theorem grows_enlist {c : Container} (hc : c.EnumerablesCollect) (element : TypeExpr)
    (member : RegistrationId) : Grows c (c.enlist element member) where
  registrations id r hr := by
    cases hfamily : c.families.get? element with
    | none =>
      refine ⟨r, ?_, Or.inl rfl⟩
      unfold enlist
      rw [hfamily]
      exact hr
    | some family =>
      rw [registration?_enlist hfamily, hr, Option.map_some]
      by_cases hid : family.enumerable = id
      · obtain ⟨r', ids, hr', hids⟩ := hc id ⟨element, family, hfamily, hid⟩
        obtain rfl := Option.some.inj (hr.symm.trans hr')
        obtain ⟨more, hmore⟩ := collect_eq hids member
        refine ⟨_, rfl, Or.inr ⟨⟨element, family, hfamily, hid⟩, ids, more, hids, ?_⟩⟩
        rw [if_pos hid, hmore]
      · exact ⟨r, by rw [if_neg hid], Or.inl rfl⟩
  families other family hf := by rwa [enlist_families]
  newFamilies other family hf := by
    rw [enlist_families] at hf
    exact Or.inl hf
  resolved type ht := by
    unfold resolution? at ht ⊢
    rwa [enlist_resolutionIndex, enlist_resolutions]
  journal := ⟨[], by rw [List.append_nil, enlist_journal]⟩

theorem Grows.enumerablesCollect {a b : Container} (h : Grows a b) (ha : a.EnumerablesCollect)
    (hnew : ∀ id, b.IsEnumerable id → ¬ a.IsEnumerable id →
      ∃ r ids, b.registration? id = some r ∧ r.collected = some ids) :
    b.EnumerablesCollect := by
  intro id hid
  by_cases hold : a.IsEnumerable id
  · obtain ⟨r, ids, hr, hids⟩ := ha id hold
    obtain ⟨r', hr', hsame | ⟨-, ids', more, -, hmore⟩⟩ := h.registrations id r hr
    · exact ⟨r', ids, hr', by rw [hsame, hids]⟩
    · exact ⟨r', ids' ++ more, hr', by rw [hmore]⟩
  · exact hnew id hid hold

/-- Growth that leaves every enumerable a collection. -/
def Extends (a b : Container) : Prop :=
  a.EnumerablesCollect → b.EnumerablesCollect ∧ a.Grows b

theorem Extends.refl (c : Container) : Extends c c := fun hc => ⟨hc, Grows.refl c⟩

theorem Extends.trans {a b c : Container} (h₁ : Extends a b) (h₂ : Extends b c) :
    Extends a c := by
  intro ha
  obtain ⟨hb, hab⟩ := h₁ ha
  obtain ⟨hc, hbc⟩ := h₂ hb
  exact ⟨hc, hab.trans hbc⟩

/-- Without a new family there is no new enumerable. -/
theorem Grows.extends {a b : Container} (h : a.EnumerablesCollect → Grows a b)
    (hfamilies : b.families = a.families) : Extends a b := by
  intro ha
  refine ⟨(h ha).enumerablesCollect ha fun id hid hold => absurd ?_ hold, h ha⟩
  unfold IsEnumerable at hid
  rwa [hfamilies] at hid

theorem extends_enlist (c : Container) (element : TypeExpr) (member : RegistrationId) :
    Extends c (c.enlist element member) :=
  Grows.extends (fun hc => grows_enlist hc element member) (enlist_families c element member)

theorem extends_add (c : Container) (ctx : Context) (service : Service) :
    Extends c (c.add ctx service) :=
  Grows.extends (fun _ => grows_add c ctx service) rfl

theorem extends_note (c : Container) (event : Event) : Extends c (c.note event) :=
  Grows.extends (fun _ => grows_note c event) rfl

theorem extends_addFamily (c : Container) (ctx : Context) {element : TypeExpr}
    (ids : List RegistrationId) (hnew : c.families.get? element = none) :
    Extends c (c.addFamily ctx element ids) := by
  intro hc
  have hgrows := grows_addFamily c ctx ids hnew
  refine ⟨hgrows.enumerablesCollect hc ?_, hgrows⟩
  rintro id ⟨other, family, hf, rfl⟩ hold
  rw [addFamily_families, TypeMap.get?_insert] at hf
  split at hf
  · obtain rfl := Option.some.inj hf
    obtain ⟨r, hr, hids⟩ := registration?_addFamily_enumerable c ctx element ids
    exact ⟨r, ids, hr, hids⟩
  · exact absurd ⟨other, family, hf, rfl⟩ hold

/-- The registration of a base for the specialization that `template` describes. -/
def mirrorOf (template : Service) (closed base : TypeExpr) : Service :=
  { template with type := base, implementation := some closed }

/-- What registering the closed type, registering a base and putting the specialization into a
collection keep, specializing keeps. -/
theorem addSpecialization_induct {P : Container → Prop} {ctx : Context} (c : Container)
    (template : Service)
    (hclosed : P ((c.add ctx template).note (.specialized c.size)))
    (hbase : ∀ b base, base ∈ servedBases ctx template.type → P b →
      P (b.add ctx (mirrorOf template template.type base)))
    (henlist : ∀ b element, P b → P (b.enlist element c.size)) :
    P (c.addSpecialization ctx template) := by
  have hbases (bases : List TypeExpr) (hserved : bases ⊆ servedBases ctx template.type)
      (b : Container) (hb : P b) :
      P (bases.foldl (addBase ctx template template.type c.size) b) := by
    induction bases generalizing b with
    | nil => exact hb
    | cons base bases ih =>
      obtain ⟨hfirst, hrest⟩ := List.cons_subset.1 hserved
      exact ih hrest _ (henlist _ base (hbase b base hfirst hb))
  exact henlist _ _ (hbases _ (List.Subset.refl _) _ hclosed)

theorem extends_addSpecialization (c : Container) (ctx : Context) (template : Service) :
    Extends c (c.addSpecialization ctx template) :=
  addSpecialization_induct c template
    ((extends_add c ctx template).trans (extends_note _ _))
    (fun b _ _ hb => hb.trans (extends_add b ctx _))
    fun b element hb => hb.trans (extends_enlist b element _)

theorem resolution?_isSome {c : Container} {type : TypeExpr} :
    (c.resolution? type).isSome ↔
      ∃ index, c.resolutionIndex.get? type = some index ∧ index < c.resolutions.length := by
  unfold resolution?
  cases c.resolutionIndex.get? type <;> simp

theorem store_registrations (c : Container) (resolution : Resolution) :
    (c.store resolution).registrations = c.registrations := by
  unfold store
  split <;> rfl

theorem store_families (c : Container) (resolution : Resolution) :
    (c.store resolution).families = c.families := by
  unfold store
  split <;> rfl

theorem store_journal (c : Container) (resolution : Resolution) :
    (c.store resolution).journal = c.journal := by
  unfold store
  split <;> rfl

theorem grows_store (c : Container) (resolution : Resolution) : Grows c (c.store resolution) where
  registrations id r hr := by
    refine ⟨r, ?_, Or.inl rfl⟩
    unfold registration? at hr ⊢
    rwa [store_registrations]
  families other family hf := by rwa [store_families]
  newFamilies other family hf := by
    rw [store_families] at hf
    exact Or.inl hf
  resolved type ht := by
    obtain ⟨index, hindex, hlt⟩ := resolution?_isSome.1 ht
    rw [resolution?_isSome]
    unfold store
    split
    · exact ⟨index, hindex, by rwa [List.length_set]⟩
    · next hnew =>
      refine ⟨index, ?_, by rw [List.length_append]; omega⟩
      rw [TypeMap.get?_insert, if_neg, hindex]
      intro hsame
      rw [← TypeMap.get?_congr c.resolutionIndex hsame, hnew] at hindex
      cases hindex
  journal := ⟨[], by rw [List.append_nil, store_journal]⟩

theorem extends_conclude (ctx : Context) (c : Container) (id : RegistrationId)
    (resolution : Resolution) : Extends c (conclude ctx c id resolution).1 := by
  rw [conclude_fst]
  exact (Grows.extends (fun _ => grows_store c resolution) (store_families c resolution)).trans
    (extends_note _ _)

theorem extends_depth (c : Container) (depth : Nat) :
    Extends c { c with specializationDepth := depth } :=
  Grows.extends (fun _ => Grows.of_eq rfl rfl rfl rfl (List.prefix_refl _)) rfl

theorem extends_entered (c : Container) (ctx : Context) (target : TypeExpr)
    (source : Registration) : Extends c (c.entered ctx target source) :=
  (extends_addSpecialization c ctx _).trans (extends_depth _ _)

theorem extends_left (c : Container) : Extends c c.left := extends_depth c _

theorem kept_extends (ctx : Context) : Kept ctx fun _ a b => Extends a b where
  refl _ c := Extends.refl c
  trans := Extends.trans
  remark c _ _ := extends_note c _
  family _ _ hnew := extends_addFamily _ ctx _ hnew
  redirect _ _ _ := extends_add _ ctx _
  nested _ _ _ _ h := ((extends_entered _ ctx _ _).trans h).trans (extends_left _)
  stopped _ _ _ _ h := h
  conclude _ _ _ h := h.trans (extends_conclude ctx _ _ _)

theorem Reachable.enumerablesCollect {ctx : Context} {c : Container} (hc : Reachable ctx c) :
    c.EnumerablesCollect := by
  refine hc.invariant ?_ (fun b service hb => (extends_add b ctx service hb).1)
    fun b id hb => ((kept_extends ctx).check b id hb).1
  rintro id ⟨element, family, hf, -⟩
  cases hf

end Wiring.Container
