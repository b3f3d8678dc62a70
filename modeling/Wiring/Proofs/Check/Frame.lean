import Wiring.Catalog.Basic
import Wiring.Proofs.Check.Latest

/-!
The frame of a check: what it leaves alone, whether it passes or fails. Old registrations stay where
they are and change at most by elements appended to a collection; families stay. A resolution is
written only for the type of the checked registration or for that of a specialization the check
made, and no resolution changes its place. The nested checks of specializations are counted in and
counted out again.
-/

namespace Wiring.Container

/-- A specialization that the second container has over the first constructs the type. -/
def Specializes (a b : Container) (type : TypeExpr) : Prop :=
  ∃ id, a.size ≤ id ∧ .specialized id ∈ b.journal ∧ b.constructs type id

/-- A resolution of the second container stands at its place in the first one already, unless its
type is in `scope`; and one that was replaced was of the same type. -/
structure Rewrites (scope : TypeExpr → Prop) (a b : Container) : Prop where
  places (index : Nat) (old : Resolution) : a.resolutions[index]? = some old →
    ∃ new, b.resolutions[index]? = some new ∧ new.type.same old.type
  changes (index : Nat) (new : Resolution) : b.resolutions[index]? = some new →
    a.resolutions[index]? = some new ∨ scope new.type

namespace Rewrites

variable {a b c : Container} {p q : TypeExpr → Prop}

theorem of_eq (h : b.resolutions = a.resolutions) : Rewrites p a b where
  places index old hold := ⟨old, by rw [h]; exact hold, TypeExpr.same_refl _⟩
  changes index new hnew := Or.inl (by rwa [h] at hnew)

theorem mono (h : Rewrites p a b) (hpq : ∀ type, p type → q type) : Rewrites q a b where
  places := h.places
  changes index new hnew := (h.changes index new hnew).imp_right (hpq new.type)

theorem trans (hab : Rewrites p a b) (hbc : Rewrites p b c) : Rewrites p a c where
  places index old hold := by
    obtain ⟨middle, hmiddle, hsame⟩ := hab.places index old hold
    obtain ⟨new, hnew, hsame'⟩ := hbc.places index middle hmiddle
    exact ⟨new, hnew, TypeExpr.same_trans hsame' hsame⟩
  changes index new hnew := by
    rcases hbc.changes index new hnew with hmiddle | hscope
    · exact hab.changes index new hmiddle
    · exact Or.inr hscope

end Rewrites

variable {a b c : Container}

theorem rewrites_store (h : c.Indexed) {scope : TypeExpr → Prop} {resolution : Resolution}
    (hscope : scope resolution.type) : Rewrites scope c (c.store resolution) := by
  unfold store
  split
  · next index hindex =>
    obtain ⟨replaced, hreplaced, hsame⟩ := (h resolution.type index).1 hindex
    have hlt := (List.getElem?_eq_some_iff.1 hreplaced).1
    constructor
    case places =>
      intro i old hold
      by_cases hi : index = i
      · subst hi
        obtain rfl := Option.some.inj (hreplaced.symm.trans hold)
        refine ⟨resolution, List.getElem?_set_self hlt, ?_⟩
        rwa [TypeExpr.same_comm]
      · exact ⟨old, by simp [List.getElem?_set_ne hi, hold], TypeExpr.same_refl _⟩
    case changes =>
      intro i new hnew
      by_cases hi : index = i
      · subst hi
        simp only [List.getElem?_set_self hlt, Option.some.injEq] at hnew
        exact Or.inr (hnew ▸ hscope)
      · simp only [List.getElem?_set_ne hi] at hnew
        exact Or.inl hnew
  · constructor
    case places =>
      intro i old hold
      have hlt := (List.getElem?_eq_some_iff.1 hold).1
      exact ⟨old, by simp [List.getElem?_append_left hlt, hold], TypeExpr.same_refl _⟩
    case changes =>
      intro i new hnew
      rw [List.getElem?_append] at hnew
      split at hnew
      · exact Or.inl hnew
      · obtain rfl := List.mem_singleton.1 (List.mem_of_getElem? hnew)
        exact Or.inr hscope

theorem lt_of_constructs {type : TypeExpr} {id : RegistrationId} (h : c.constructs type id) :
    id < c.size := by
  unfold constructs at h
  cases hr : c.registration? id with
  | none => simp [hr] at h
  | some r => exact registration?_eq_some_lt hr

theorem Grows.constructs (h : a.Grows b) {type : TypeExpr} {id : RegistrationId}
    (hid : a.constructs type id) : b.constructs type id := by
  rwa [h.constructs_eq (lt_of_constructs hid)]

theorem Specializes.grow {type : TypeExpr} (h : Specializes a b type) (hgrows : b.Grows c) :
    Specializes a c type := by
  obtain ⟨id, hid, hjournal, hconstructs⟩ := h
  exact ⟨id, hid, hgrows.journal.subset hjournal, hgrows.constructs hconstructs⟩

theorem Specializes.shrink {type : TypeExpr} (h : Specializes b c type) (hgrows : a.Grows b) :
    Specializes a c type := by
  obtain ⟨id, hid, hjournal, hconstructs⟩ := h
  exact ⟨id, Nat.le_trans hgrows.size_le hid, hjournal, hconstructs⟩

/-- Growth that writes resolutions in `scope` only. -/
structure Frames (scope : TypeExpr → Prop) (a b : Container) : Prop where
  indexed : b.Indexed
  collect : b.EnumerablesCollect
  grows : a.Grows b
  rewrites : Rewrites scope a b

theorem frames_of_extends {scope : TypeExpr → Prop} (hindexed : b.Indexed) (h : Extends a b)
    (ha : a.EnumerablesCollect) (hresolutions : b.resolutions = a.resolutions) :
    Frames scope a b where
  indexed := hindexed
  collect := (h ha).1
  grows := (h ha).2
  rewrites := .of_eq hresolutions

theorem Frames.trans (hab : Frames (Specializes a b) a b) (hbc : Frames (Specializes b c) b c) :
    Frames (Specializes a c) a c where
  indexed := hbc.indexed
  collect := hbc.collect
  grows := hab.grows.trans hbc.grows
  rewrites := (hab.rewrites.mono fun _ h => h.grow hbc.grows).trans
    (hbc.rewrites.mono fun _ h => h.shrink hab.grows)

/-- The types for which a check of `id` that leads from `a` to `b` may write a resolution. -/
def Concerns (id : RegistrationId) (a b : Container) (type : TypeExpr) : Prop :=
  a.constructs type id ∨ Specializes a b type

/-- Resolving parameters writes the resolutions of specializations only, and the check of a
registration besides these its own. -/
theorem keeps_frames (ctx : Context) :
    Keeps ctx (fun _ a b => a.Indexed → a.EnumerablesCollect → Frames (Specializes a b) a b)
      fun id _ a b => a.Indexed → a.EnumerablesCollect → Frames (Concerns id a b) a b where
  refl _ c hindexed hcollect := frames_of_extends hindexed (Extends.refl c) hcollect rfl
  trans hab hbc hindexed hcollect :=
    have hab := hab hindexed hcollect
    hab.trans (hbc hab.indexed hab.collect)
  remark c event _ hindexed hcollect :=
    frames_of_extends (hindexed.of_eq rfl rfl) (extends_note c event) hcollect rfl
  family _ _ hnew hindexed hcollect :=
    frames_of_extends (hindexed.of_eq rfl rfl) (extends_addFamily _ ctx _ hnew) hcollect rfl
  redirect _ _ _ hindexed hcollect :=
    frames_of_extends (hindexed.of_eq rfl rfl) (extends_add _ ctx _) hcollect rfl
  nested := by
    intro c target source levels s _ _ _ _ hchecked hindexed hcollect
    have hresolutions := entered_resolutions c ctx target source
    have hindexed := hindexed.of_eq hresolutions (entered_resolutionIndex c ctx target source)
    obtain ⟨hcollect, hentered⟩ := extends_entered c ctx target source hcollect
    have hafter := hchecked hindexed hcollect
    obtain ⟨hleft, hleaves⟩ := extends_left s.1 hafter.collect
    refine ⟨hafter.indexed.of_eq rfl rfl, hleft, (hentered.trans hafter.grows).trans hleaves, ?_⟩
    have hscope : ∀ type, Concerns c.size (c.entered ctx target source) s.1 type →
        Specializes c s.1.left type := by
      rintro type (hown | hnested)
      -- the specialization's own type, which the nested check concludes with
      · refine ⟨c.size, Nat.le_refl _, ?_, hleaves.constructs (hafter.grows.constructs hown)⟩
        refine hafter.grows.journal.subset ?_
        rw [entered_journal]
        exact List.mem_append_right _ (List.mem_singleton_self _)
      · exact (hnested.shrink hentered).grow hleaves
    exact (Rewrites.of_eq hresolutions).trans
      ((hafter.rewrites.mono hscope).trans (.of_eq rfl))
  stopped id _ _ _ h hindexed hcollect :=
    have h := h hindexed hcollect
    ⟨h.indexed, h.collect, h.grows, h.rewrites.mono fun _ => Or.inr⟩
  conclude := by
    intro a b id r levels construction parameters hr _ _ h hindexed hcollect
    have h := h hindexed hcollect
    let resolution : Resolution := ⟨r.resolvedType, r.lifetime, construction, parameters⟩
    obtain ⟨hconclude, hgrows⟩ := extends_conclude ctx b id resolution h.collect
    have hspecialized : ∀ type, Specializes a b type →
        Concerns id a (conclude ctx b id resolution).1 type :=
      fun type htype => Or.inr (htype.grow hgrows)
    have hown : Concerns id a (conclude ctx b id resolution).1 resolution.type :=
      Or.inl (by rw [constructs, hr, Option.any_some, TypeExpr.same_refl])
    refine ⟨?_, hconclude, h.grows.trans hgrows, (h.rewrites.mono hspecialized).trans ?_⟩
    · rw [conclude_fst]
      exact (h.indexed.store resolution).of_eq rfl rfl
    · rw [conclude_fst] at hown ⊢
      exact (rewrites_store h.indexed hown).trans (.of_eq rfl)

theorem entered_specializationDepth (c : Container) (ctx : Context) (target : TypeExpr)
    (source : Registration) :
    (c.entered ctx target source).specializationDepth = c.specializationDepth + 1 := by
  have hadded := addSpecialization_view (·.specializationDepth) ctx (fun _ _ => rfl)
    (fun c element id => by unfold enlist; split <;> rfl) c (closedOver target source)
  exact congrArg (· + 1) hadded

/-- Every nested check is counted in and out, also where it fails. -/
theorem kept_specializationDepth (ctx : Context) :
    Kept ctx fun _ a b => b.specializationDepth = a.specializationDepth where
  refl _ _ := rfl
  trans hab hbc := hbc.trans hab
  remark _ _ _ := rfl
  family _ _ _ := rfl
  redirect _ _ _ := rfl
  nested _ _ _ _ h := by
    rw [entered_specializationDepth] at h
    rw [left, h, Nat.add_sub_cancel]
  stopped _ _ _ _ h := h
  conclude _ _ _ h := by
    rw [conclude_fst]
    unfold store
    split <;> exact h

/-- The frame of a check, passed or failed. -/
theorem check_frame {ctx : Context} (hc : Reachable ctx c) (id : RegistrationId) :
    c.Grows (c.check ctx id).1 ∧
      Rewrites (Concerns id c (c.check ctx id).1) c (c.check ctx id).1 ∧
      (c.check ctx id).1.specializationDepth = c.specializationDepth := by
  have hframes := (keeps_frames ctx).check c id hc.indexed hc.enumerablesCollect
  exact ⟨hframes.grows, hframes.rewrites, (kept_specializationDepth ctx).check c id⟩

namespace Queries

def user : TypeExpr := ⟨.classType, "app::User", [], false⟩
def database : TypeExpr := ⟨.classType, "app::Database", [], false⟩
def listing : TypeExpr := ⟨.classType, "app::Listing", [], false⟩
def queries : TypeExpr := ⟨.classType, "app::Queries", [], false⟩
def entity : TypeExpr := ⟨.parameter, "T", [], false⟩

def store (stored : TypeExpr) : TypeExpr := ⟨.interfaceType, "app::Store", [stored], false⟩
def repository (stored : TypeExpr) : TypeExpr := ⟨.classType, "app::Repository", [stored], false⟩

/-- Repositories need a database, which nobody registers. -/
def catalog : Catalog := .ofDefinitions [
  .declaring (store entity) [] [],
  { Definition.built (repository entity) [⟨"database", database, [], none⟩] with
    bases := [store entity] },
  .built listing [⟨"stores", Settings.enumerableOf {} (store user), [], none⟩],
  .built queries [⟨"users", store user, [], none⟩]]

def context : Context := { program := catalog.program }

def registered : Container := empty.addAll context [
  { type := store entity, lifetime := .singleton, implementation := some (repository entity) },
  { type := listing, lifetime := .singleton },
  { type := queries, lifetime := .singleton }]

/-- The listing made the collection of all stores of users, which is empty so far. -/
def listed : Container := (registered.check context 1).1

theorem listed_reachable : Reachable context listed := (Evolves.refl.addAll _).check 1

end Queries

/-- The check of the queries fails inside the repository that it specializes. What that one did
stays, its place in the collection of the stores included, and nothing else is touched. -/
theorem queries_framed :
    (Queries.listed.check Queries.context 2).passes = false ∧
      ((Queries.listed.check Queries.context 2).1.registration? 6).bind (·.collected) = some [7] ∧
      Queries.listed.Grows (Queries.listed.check Queries.context 2).1 ∧
      Rewrites (Concerns 2 Queries.listed (Queries.listed.check Queries.context 2).1)
        Queries.listed (Queries.listed.check Queries.context 2).1 ∧
      (Queries.listed.check Queries.context 2).1.specializationDepth = 0 :=
  ⟨by decide +kernel, by decide +kernel, check_frame Queries.listed_reachable 2⟩

end Wiring.Container
