import Wiring.Proofs.Check.Growth

/-!
The resolutions of a container are found by their types: the index leads from a type to the one
resolution of that type. Registering leaves the resolutions alone, and so do the parts of a check
before its conclusion, which stores exactly one.
-/

namespace Wiring.Container

/-- The index of a type is the place of the resolution of that type. -/
def Indexed (c : Container) : Prop :=
  ∀ type index, c.resolutionIndex.get? type = some index ↔
    ∃ resolution, c.resolutions[index]? = some resolution ∧ resolution.type.same type

/-- A view that neither registrations nor elements enter does not tell what specializing adds. -/
theorem addSpecialization_view {β : Type} (view : Container → β) (ctx : Context)
    (hadd : ∀ c service, view (add c ctx service) = view c)
    (henlist : ∀ c element id, view (enlist c element id) = view c) (c : Container)
    (template : Service) :
    view (c.addSpecialization ctx template) =
      view ((c.add ctx template).note (.specialized c.size)) := by
  let entered := (c.add ctx template).note (.specialized c.size)
  exact addSpecialization_induct (P := fun b => view b = view entered) c template rfl
    (fun b _ _ hb => (hadd b _).trans hb) fun b element hb => (henlist b element _).trans hb

theorem entered_resolutions (c : Container) (ctx : Context) (target : TypeExpr)
    (source : Registration) : (c.entered ctx target source).resolutions = c.resolutions :=
  addSpecialization_view (·.resolutions) ctx (fun _ _ => rfl) enlist_resolutions c _

theorem entered_resolutionIndex (c : Container) (ctx : Context) (target : TypeExpr)
    (source : Registration) : (c.entered ctx target source).resolutionIndex = c.resolutionIndex :=
  addSpecialization_view (·.resolutionIndex) ctx (fun _ _ => rfl) enlist_resolutionIndex c _

theorem entered_journal (c : Container) (ctx : Context) (target : TypeExpr)
    (source : Registration) :
    (c.entered ctx target source).journal = c.journal ++ [.specialized c.size] :=
  addSpecialization_view (·.journal) ctx (fun _ _ => rfl) enlist_journal c _

namespace Indexed

variable {c : Container}

theorem of_eq {a b : Container} (ha : Indexed a) (hresolutions : b.resolutions = a.resolutions)
    (hindex : b.resolutionIndex = a.resolutionIndex) : Indexed b := by
  unfold Indexed
  rw [hresolutions, hindex]
  exact ha

theorem resolution?_eq_some_iff (h : Indexed c) {type : TypeExpr} {resolution : Resolution} :
    c.resolution? type = some resolution ↔
      resolution ∈ c.resolutions ∧ resolution.type.same type := by
  unfold resolution?
  rw [Option.bind_eq_some_iff]
  constructor
  · rintro ⟨index, hindex, hresolution⟩
    obtain ⟨resolution', hresolution', hsame⟩ := (h type index).1 hindex
    obtain rfl := Option.some.inj (hresolution.symm.trans hresolution')
    exact ⟨List.mem_of_getElem? hresolution, hsame⟩
  · rintro ⟨hmem, hsame⟩
    obtain ⟨index, hindex⟩ := List.getElem?_of_mem hmem
    exact ⟨index, (h type index).2 ⟨resolution, hindex, hsame⟩, hindex⟩

/-- No two resolutions are of the same type. -/
theorem resolution_unique (h : Indexed c) {a b : Resolution} (ha : a ∈ c.resolutions)
    (hb : b ∈ c.resolutions) (hsame : a.type.same b.type) : a = b := by
  have ha := h.resolution?_eq_some_iff.2 ⟨ha, hsame⟩
  have hb := h.resolution?_eq_some_iff.2 ⟨hb, TypeExpr.same_refl b.type⟩
  exact Option.some.inj (ha.symm.trans hb)

theorem replace (h : Indexed c) {resolution : Resolution} {index : Nat}
    (hindex : c.resolutionIndex.get? resolution.type = some index) :
    Indexed { c with resolutions := c.resolutions.set index resolution } := by
  intro type i
  obtain ⟨old, hold, hsame⟩ := (h resolution.type index).1 hindex
  rw [h type i]
  by_cases hi : index = i
  · subst hi
    rw [hold, List.getElem?_set_self (List.getElem?_eq_some_iff.1 hold).1]
    simp only [Option.some.injEq, exists_eq_left']
    rw [TypeExpr.congr_same hsame]
  · rw [List.getElem?_set_ne hi]

theorem append (h : Indexed c) {resolution : Resolution}
    (hnew : c.resolutionIndex.get? resolution.type = none) :
    Indexed { c with
      resolutions := c.resolutions ++ [resolution]
      resolutionIndex := c.resolutionIndex.insert resolution.type c.resolutions.length } := by
  intro type i
  have hfresh {r : Resolution} (hr : c.resolutions[i]? = some r) (hrt : r.type.same type) :
      ¬ resolution.type.same type := by
    intro hsame
    have hi := (h type i).2 ⟨r, hr, hrt⟩
    rw [← TypeMap.get?_congr c.resolutionIndex hsame, hnew] at hi
    cases hi
  dsimp only
  rw [TypeMap.get?_insert, List.getElem?_append]
  by_cases hsame : resolution.type.same type
  · rw [if_pos hsame]
    constructor
    · intro hi
      obtain rfl := Option.some.inj hi
      exact ⟨resolution, by simp, hsame⟩
    · rintro ⟨r, hr, hrt⟩
      split at hr
      · exact absurd hsame (hfresh hr hrt)
      · have hlt := (List.getElem?_eq_some_iff.1 hr).1
        rw [List.length_singleton] at hlt
        exact congrArg some (by omega)
  · rw [if_neg hsame, h type i]
    constructor
    · rintro ⟨r, hr, hrt⟩
      exact ⟨r, by rw [if_pos (List.getElem?_eq_some_iff.1 hr).1, hr], hrt⟩
    · rintro ⟨r, hr, hrt⟩
      split at hr
      · exact ⟨r, hr, hrt⟩
      · obtain rfl := List.mem_singleton.1 (List.mem_of_getElem? hr)
        exact absurd hrt hsame

theorem store (h : Indexed c) (resolution : Resolution) : Indexed (c.store resolution) := by
  unfold Container.store
  split
  · next hindex => exact h.replace hindex
  · next hnew => exact h.append hnew

end Indexed

theorem mem_resolutions_of_store {c : Container} {resolution a : Resolution}
    (ha : a ∈ (c.store resolution).resolutions) : a = resolution ∨ a ∈ c.resolutions := by
  unfold store at ha
  split at ha
  · exact (List.mem_or_eq_of_mem_set ha).symm
  · rcases List.mem_append.1 ha with hold | hnew
    · exact Or.inr hold
    · exact Or.inl (List.mem_singleton.1 hnew)

theorem mem_resolutions_store {c : Container} (h : c.Indexed) (resolution : Resolution) :
    resolution ∈ (c.store resolution).resolutions := by
  unfold store
  split
  · next index hindex =>
    obtain ⟨old, hold, -⟩ := (h resolution.type index).1 hindex
    exact List.mem_set (List.getElem?_eq_some_iff.1 hold).1 resolution
  · exact List.mem_append_right _ (List.mem_singleton_self _)

/-- Storing a resolution answers for its type, and for no other. -/
theorem resolution?_store {c : Container} (h : c.Indexed) (resolution : Resolution)
    (type : TypeExpr) :
    (c.store resolution).resolution? type =
      if resolution.type.same type then some resolution else c.resolution? type := by
  split
  · next hsame =>
    exact (h.store resolution).resolution?_eq_some_iff.2 ⟨mem_resolutions_store h resolution, hsame⟩
  next hother =>
  have hkeeps : (c.store resolution).resolutionIndex.get? type = c.resolutionIndex.get? type := by
    unfold store
    split
    · rfl
    · rw [TypeMap.get?_insert, if_neg hother]
  unfold resolution?
  rw [hkeeps]
  cases hi : c.resolutionIndex.get? type with
  | none => rfl
  | some i =>
    obtain ⟨old, hold, hsame⟩ := (h type i).1 hi
    rw [Option.bind_some, Option.bind_some]
    unfold store
    split
    · next index hindex =>
      -- the place that is overwritten is that of another type
      have hne : index ≠ i := by
        rintro rfl
        obtain ⟨replaced, hreplaced, hsame'⟩ := (h resolution.type index).1 hindex
        obtain rfl := Option.some.inj (hold.symm.trans hreplaced)
        rw [TypeExpr.congr_same hsame'] at hsame
        exact hother hsame
      exact List.getElem?_set_ne hne
    · exact List.getElem?_append_left (List.getElem?_eq_some_iff.1 hold).1

theorem resolution?_conclude {ctx : Context} {c : Container} (h : c.Indexed)
    (id : RegistrationId) (resolution : Resolution) (type : TypeExpr) :
    (conclude ctx c id resolution).1.resolution? type =
      if resolution.type.same type then some resolution else c.resolution? type := by
  rw [conclude_fst]
  exact resolution?_store h resolution type

theorem kept_indexed (ctx : Context) : Kept ctx fun _ a b => Indexed a → Indexed b where
  refl _ _ := id
  trans hab hbc ha := hbc (hab ha)
  remark _ _ _ ha := ha.of_eq rfl rfl
  family _ _ _ ha := ha.of_eq rfl rfl
  redirect _ _ _ ha := ha.of_eq rfl rfl
  nested _ _ _ _ h ha :=
    (h (ha.of_eq (entered_resolutions _ ctx _ _) (entered_resolutionIndex _ ctx _ _))).of_eq rfl rfl
  stopped _ _ _ _ h := h
  conclude _ _ _ h ha := by
    rw [conclude_fst]
    exact ((h ha).store _).of_eq rfl rfl

theorem Reachable.indexed {ctx : Context} {c : Container} (hc : Reachable ctx c) : c.Indexed := by
  refine hc.invariant ?_ (fun b service hb => hb.of_eq rfl rfl)
    fun b id hb => (kept_indexed ctx).check b id hb
  intro type index
  simp [empty]

end Wiring.Container
