import Wiring.Proofs.Catalog.Walk

/-!
Instances of definitions. In a catalog whose definitions are well scoped, replacing parameters in a
type does the same to each of its ancestors. So an implementation that fits a definition, over the
definition's own parameters in their places, can be closed over any arguments and serves the request
for them. One that takes the parameters in another order, or wraps them, does not fit.
-/

namespace Wiring

/-- The names of the type parameters of the definition. -/
def Definition.names (definition : Definition) : List String := definition.type.args.map (·.name)

/-- The arguments of the definition are type parameters, and its bases mention no others. -/
structure Definition.IsScoped (definition : Definition) : Prop where
  parameters : ∀ arg ∈ definition.type.args, arg.kind = .parameter
  mentions : ∀ base ∈ definition.bases, ∀ name ∈ base.parameters, name ∈ definition.names

instance (definition : Definition) : Decidable definition.IsScoped :=
  decidable_of_iff
    ((∀ arg ∈ definition.type.args, arg.kind = .parameter) ∧
      ∀ base ∈ definition.bases, ∀ name ∈ base.parameters, name ∈ definition.names)
    ⟨fun ⟨h₁, h₂⟩ => ⟨h₁, h₂⟩, fun ⟨h₁, h₂⟩ => ⟨h₁, h₂⟩⟩

namespace Catalog

mutual
/-- Every type within the type has as many arguments as its definition. -/
def isProper (catalog : Catalog) : TypeExpr → Bool
  | ⟨.parameter, _, _, _⟩ => true
  | ⟨kind, name, args, nullable⟩ =>
    allProper catalog args && (catalog.definition? ⟨kind, name, args, nullable⟩).all fun d =>
      d.type.args.length == args.length

def allProper (catalog : Catalog) : List TypeExpr → Bool
  | [] => true
  | type :: types => isProper catalog type && allProper catalog types
end

/-- The arguments of a definition are distinct type parameters; its bases mention no others and give
every type as many arguments as its definition has. -/
structure WellScoped (catalog : Catalog) : Prop where
  parameters : ∀ d ∈ catalog.definitions, ∀ arg ∈ d.type.args, arg.kind = .parameter
  distinct : ∀ d ∈ catalog.definitions, d.names.Nodup
  mentions : ∀ d ∈ catalog.definitions, ∀ base ∈ d.bases, ∀ name ∈ base.parameters, name ∈ d.names
  proper : ∀ d ∈ catalog.definitions, ∀ base ∈ d.bases, catalog.isProper base

instance (catalog : Catalog) : Decidable catalog.WellScoped :=
  decidable_of_iff
    ((∀ d ∈ catalog.definitions, ∀ arg ∈ d.type.args, arg.kind = .parameter) ∧
      (∀ d ∈ catalog.definitions, d.names.Nodup) ∧
      (∀ d ∈ catalog.definitions, ∀ base ∈ d.bases, ∀ name ∈ base.parameters, name ∈ d.names) ∧
      ∀ d ∈ catalog.definitions, ∀ base ∈ d.bases, catalog.isProper base)
    ⟨fun ⟨h₁, h₂, h₃, h₄⟩ => ⟨h₁, h₂, h₃, h₄⟩, fun ⟨h₁, h₂, h₃, h₄⟩ => ⟨h₁, h₂, h₃, h₄⟩⟩

/-- The type has as many arguments as its definition, if it has one. -/
def Filled (catalog : Catalog) (type : TypeExpr) : Prop :=
  ∀ d ∈ catalog.definition? type, d.type.args.length = type.args.length

instance (catalog : Catalog) (type : TypeExpr) : Decidable (catalog.Filled type) :=
  inferInstanceAs (Decidable (∀ d ∈ catalog.definition? type, _))

/-- Over the parameters of the definition of `request`, in their places, the implementation is a
type that serves. -/
def Fits (catalog : Catalog) (program : Program) (request implementation : TypeExpr) : Prop :=
  ∃ definition, catalog.genericDefinition request = some definition ∧
    catalog.isProper (implementation.construct definition.args) ∧
    program.Serves (request.construct definition.args) (implementation.construct definition.args)

variable {catalog : Catalog} {type : TypeExpr}

theorem allProper_iff {types : List TypeExpr} :
    catalog.allProper types ↔ ∀ type ∈ types, catalog.isProper type := by
  induction types with
  | nil => simp [allProper]
  | cons type types ih => simp [allProper, ih]

theorem isProper_iff (h : type.kind ≠ .parameter) :
    catalog.isProper type ↔ (∀ arg ∈ type.args, catalog.isProper arg) ∧
      catalog.Filled type := by
  unfold Filled
  have hunfold : catalog.isProper type = (catalog.allProper type.args &&
      (catalog.definition? type).all fun d => d.type.args.length == type.args.length) := by
    obtain ⟨kind, name, args, nullable⟩ := type
    cases kind <;> first | rfl | exact absurd rfl h
  rw [hunfold, Bool.and_eq_true, allProper_iff]
  cases catalog.definition? type <;> simp

theorem kind_ne_of_definition? {d : Definition} (h : catalog.definition? type = some d) :
    type.kind ≠ .parameter := by
  intro hkind
  unfold definition? TypeExpr.isNamed at h
  rw [hkind] at h
  cases h

theorem definition?_substitute (h : type.kind ≠ .parameter) (σ : Bindings) :
    catalog.definition? (type.substitute σ) = catalog.definition? type := by
  rw [TypeExpr.substitute_eq h]
  rfl

theorem kind_ne_of_mem_directBases {base : TypeExpr} (h : base ∈ catalog.directBases type) :
    type.kind ≠ .parameter := by
  obtain ⟨d, hd, -⟩ := declared_of_mem_directBases h
  exact kind_ne_of_definition? hd

theorem isProper_annotated (type : TypeExpr) (nullable : Bool) :
    catalog.isProper { type with nullable := nullable } = catalog.isProper type := by
  obtain ⟨kind, name, args, own⟩ := type
  cases kind <;> rfl

theorem isProper_substitute {σ : Bindings}
    (hσ : ∀ name bound, σ.lookup name = some bound → catalog.isProper bound)
    (h : catalog.isProper type) : catalog.isProper (type.substitute σ) := by
  induction type with
  | mk kind name args nullable ih =>
    by_cases hkind : kind = .parameter
    · subst hkind
      cases hbound : σ.lookup name with
      | none => simpa only [TypeExpr.substitute, hbound] using h
      | some bound =>
        rw [TypeExpr.substitute_bound hbound, isProper_annotated]
        exact hσ name bound hbound
    · obtain ⟨hargs, harity⟩ := (isProper_iff (by exact hkind)).1 h
      rw [TypeExpr.substitute_of_ne hkind, isProper_iff hkind]
      constructor
      · intro arg harg
        obtain ⟨old, hold, rfl⟩ := List.mem_map.1 harg
        exact ih old hold (hargs old hold)
      · intro d hd
        rw [List.length_map]
        exact harity d hd

/-- Replacing parameters in a type does the same to each of its bases. -/
theorem directBases_substitute (h : ∀ d ∈ catalog.definitions, d.IsScoped)
    (hkind : type.kind ≠ .parameter) (hfilled : catalog.Filled type) (σ : Bindings) :
    catalog.directBases (type.substitute σ) =
      (catalog.directBases type).map (TypeExpr.substitute σ) := by
  unfold directBases
  rw [definition?_substitute hkind]
  cases hd : catalog.definition? type with
  | none => rfl
  | some d =>
    obtain ⟨hparameters, hmentions⟩ := h d (mem_of_definition? hd)
    have hbindings : d.type.bindings (type.substitute σ) =
        (d.type.bindings type).mapTypes (TypeExpr.substitute σ) := by
      rw [TypeExpr.substitute_eq hkind, TypeExpr.bindings_eq_bindAll, TypeExpr.bindings_eq_bindAll,
        TypeExpr.mapTypes_bindAll]
    simp only [List.map_map]
    refine List.map_congr_left fun base hbase => ?_
    rw [hbindings]
    refine (TypeExpr.substitute_substitute _ σ fun name hname => ?_).symm
    exact TypeExpr.lookup_bindAll_isSome hparameters (hfilled d hd)
      (hmentions base hbase name hname)

section WellScoped

variable (h : catalog.WellScoped)
include h

theorem WellScoped.isScoped (d : Definition) (hd : d ∈ catalog.definitions) : d.IsScoped :=
  ⟨h.parameters d hd, h.mentions d hd⟩

theorem WellScoped.directBases_substitute (hkind : type.kind ≠ .parameter)
    (hproper : catalog.isProper type) (σ : Bindings) :
    catalog.directBases (type.substitute σ) =
      (catalog.directBases type).map (TypeExpr.substitute σ) :=
  Catalog.directBases_substitute h.isScoped hkind ((isProper_iff hkind).1 hproper).2 σ

theorem WellScoped.isProper_of_mem_directBases (hproper : catalog.isProper type) {base : TypeExpr}
    (hbase : base ∈ catalog.directBases type) : catalog.isProper base := by
  have hargs := ((isProper_iff (kind_ne_of_mem_directBases hbase)).1 hproper).1
  obtain ⟨d, hd, declared, hdeclared, rfl⟩ := declared_of_mem_directBases hbase
  refine isProper_substitute (fun name bound hbound => hargs bound ?_)
    (h.proper d (mem_of_definition? hd) declared hdeclared)
  exact TypeExpr.mem_of_lookup_bindAll hbound

/-- Ancestors are replaced along with the type. -/
theorem WellScoped.ancestor_substitute {base : TypeExpr} (hproper : catalog.isProper type)
    (hbase : catalog.Ancestor type base) (σ : Bindings) :
    catalog.isProper base ∧ catalog.Ancestor (type.substitute σ) (base.substitute σ) := by
  induction hbase with
  | direct hdirect =>
    refine ⟨h.isProper_of_mem_directBases hproper hdirect, .direct ?_⟩
    rw [h.directBases_substitute (kind_ne_of_mem_directBases hdirect) hproper]
    exact List.mem_map_of_mem hdirect
  | further _ hdirect ih =>
    obtain ⟨hmiddle, hancestor⟩ := ih
    refine ⟨h.isProper_of_mem_directBases hmiddle hdirect, hancestor.further ?_⟩
    rw [h.directBases_substitute (kind_ne_of_mem_directBases hdirect) hmiddle]
    exact List.mem_map_of_mem hdirect

theorem WellScoped.isA_substitute {target : TypeExpr} (hproper : catalog.isProper type)
    (hisA : catalog.IsA type target) (σ : Bindings) :
    catalog.IsA (type.substitute σ) (target.substitute σ) := by
  rcases hisA with hsame | ⟨base, hbase, hsame⟩
  · exact Or.inl (TypeExpr.same_substitute hsame rfl)
  · exact Or.inr ⟨_, (h.ancestor_substitute hproper hbase σ).2,
      TypeExpr.same_substitute hsame rfl⟩

end WellScoped

theorem kind_ne_of_isA {target : TypeExpr} (h : catalog.IsA type target)
    (htarget : target.kind ≠ .parameter) : type.kind ≠ .parameter := by
  rcases h with hsame | ⟨base, hbase, -⟩
  · rwa [TypeExpr.kind_eq_of_same hsame]
  · induction hbase with
    | direct hdirect => exact kind_ne_of_mem_directBases hdirect
    | further _ _ ih => exact ih

theorem genericDefinition_eq_some {definition : TypeExpr}
    (h : catalog.genericDefinition type = some definition) :
    ∃ d, catalog.definition? type = some d ∧ d.type = definition ∧
      d.type.args.length = type.args.length ∧ type.kind ≠ .parameter := by
  unfold genericDefinition at h
  split at h
  · split at h
    · next d hd =>
      split at h
      · next hlength => exact ⟨d, hd, Option.some.inj h, hlength, kind_ne_of_definition? hd⟩
      · cases h
    · cases h
  · cases h

/-- An implementation that fits, closed over the arguments of the request, serves the request. -/
theorem Fits.serves {program : Program} (h : catalog.WellScoped)
    (hdescribes : catalog.Describes program) {request implementation : TypeExpr}
    (hfits : catalog.Fits program request implementation) :
    program.Serves request (implementation.construct request.args) := by
  obtain ⟨definition, hdefinition, hproper, hserves⟩ := hfits
  obtain ⟨d, hd, rfl, hlength, hnamed⟩ := genericDefinition_eq_some hdefinition
  rw [hdescribes.serves_iff] at hserves ⊢
  have himplementation : (implementation.construct d.type.args).kind ≠ .parameter :=
    kind_ne_of_isA hserves hnamed
  change implementation.kind ≠ .parameter at himplementation
  have hmem := mem_of_definition? hd
  -- the arguments of the request, in the places of the parameters of the definition
  have hargs := TypeExpr.map_substitute_bindAll (h.parameters d hmem) (h.distinct d hmem) hlength
  have hclosed := h.isA_substitute hproper hserves (TypeExpr.bindAll d.type.args request.args)
  rw [TypeExpr.construct_substitute hnamed,
    TypeExpr.construct_substitute himplementation] at hclosed
  have hrequest := TypeExpr.same_trans (TypeExpr.same_construct request hargs)
    (TypeExpr.construct_args_same request)
  have htype := TypeExpr.same_construct implementation hargs
  rw [TypeExpr.same_comm] at htype
  exact IsA.trans (Or.inl htype) (IsA.trans hclosed (Or.inl hrequest))

end Catalog
end Wiring
