import Wiring.Proofs.Catalog.FirstVisit

/-!
Catalogs whose definitions keep to their own parameters. A base names a type and gives it as many
arguments as its definition has, so on the way from base to base every parameter stays bound. What
is said of the open form of a definition then holds of it over any arguments, and what is answered
for a closed type is closed.
-/

namespace Wiring

namespace TypeExpr

theorem isClosed_iff {type : TypeExpr} :
    type.isClosed ↔ type.kind ≠ .parameter ∧ ∀ arg ∈ type.args, arg.isClosed := by
  obtain ⟨kind, name, args, nullable⟩ := type
  simp [isClosed, isOpen, anyOpen_eq_any]

theorem isClosed_annotated (type : TypeExpr) (nullable : Bool) :
    isClosed { type with nullable := nullable } = type.isClosed := by
  obtain ⟨kind, name, args, own⟩ := type
  rfl

theorem kind_ne_of_isNamed {type : TypeExpr} (h : type.isNamed) : type.kind ≠ .parameter := by
  intro hkind
  rw [isNamed, hkind] at h
  cases h

/-- Where every parameter of a type is bound to a closed type, nothing stays open. -/
theorem isClosed_substitute {σ : Bindings} {type : TypeExpr}
    (h : ∀ name ∈ type.parameters, ∃ bound, σ.lookup name = some bound ∧ bound.isClosed) :
    (type.substitute σ).isClosed := by
  induction type with
  | mk kind name args nullable ih =>
    by_cases hkind : kind = .parameter
    · subst hkind
      obtain ⟨bound, hbound, hclosed⟩ := h name (List.mem_singleton_self name)
      rwa [substitute_bound hbound, isClosed_annotated]
    · rw [parameters_of_ne hkind] at h
      rw [substitute_of_ne hkind, isClosed_iff]
      refine ⟨hkind, fun arg harg => ?_⟩
      obtain ⟨old, hold, rfl⟩ := List.mem_map.1 harg
      exact ih old hold fun other hother => h other (mem_parametersAll.2 ⟨old, hold, hother⟩)

end TypeExpr

theorem Member.parameters_substitute (σ : Bindings) (member : Member) :
    (member.substitute σ).parameters = member.parameters.map (·.substitute σ) := by
  cases member <;> rfl

theorem Member.produces_substitute (σ : Bindings) (member : Member) :
    (member.substitute σ).produces = member.produces.map (·.substitute σ) := by
  cases member <;> rfl

namespace Catalog

variable {catalog : Catalog} {type : TypeExpr}

/-- Definitions keep to their own parameters, and each of their bases names a type over as many
arguments as its definition has. -/
structure Scoped (catalog : Catalog) : Prop where
  isScoped : ∀ d ∈ catalog.definitions, d.IsScoped
  named : ∀ d ∈ catalog.definitions, ∀ base ∈ d.bases, base.isNamed
  filled : ∀ d ∈ catalog.definitions, ∀ base ∈ d.bases, catalog.Filled base

/-- No two parameters of a definition have the same name. -/
def Distinct (catalog : Catalog) : Prop := ∀ d ∈ catalog.definitions, d.names.Nodup

instance (catalog : Catalog) : Decidable catalog.Distinct :=
  inferInstanceAs (Decidable (∀ d ∈ catalog.definitions, d.names.Nodup))

/-- Constructors and members mention no parameters but those of their definition. -/
structure MembersScoped (catalog : Catalog) : Prop where
  constructors : ∀ d ∈ catalog.definitions, ∀ method ∈ d.constructors,
    ∀ parameter ∈ method.parameters, ∀ name ∈ parameter.type.parameters, name ∈ d.names
  parameters : ∀ d ∈ catalog.definitions, ∀ member ∈ d.members,
    ∀ parameter ∈ member.parameters, ∀ name ∈ parameter.type.parameters, name ∈ d.names
  produces : ∀ d ∈ catalog.definitions, ∀ member ∈ d.members,
    ∀ produced ∈ member.produces, ∀ name ∈ produced.parameters, name ∈ d.names

instance (catalog : Catalog) : Decidable catalog.Scoped :=
  decidable_of_iff
    ((∀ d ∈ catalog.definitions, d.IsScoped) ∧
      (∀ d ∈ catalog.definitions, ∀ base ∈ d.bases, base.isNamed) ∧
      ∀ d ∈ catalog.definitions, ∀ base ∈ d.bases, catalog.Filled base)
    ⟨fun ⟨h₁, h₂, h₃⟩ => ⟨h₁, h₂, h₃⟩, fun ⟨h₁, h₂, h₃⟩ => ⟨h₁, h₂, h₃⟩⟩

instance (catalog : Catalog) : Decidable catalog.MembersScoped :=
  decidable_of_iff
    ((∀ d ∈ catalog.definitions, ∀ method ∈ d.constructors,
        ∀ parameter ∈ method.parameters, ∀ name ∈ parameter.type.parameters, name ∈ d.names) ∧
      (∀ d ∈ catalog.definitions, ∀ member ∈ d.members,
        ∀ parameter ∈ member.parameters, ∀ name ∈ parameter.type.parameters, name ∈ d.names) ∧
      ∀ d ∈ catalog.definitions, ∀ member ∈ d.members,
        ∀ produced ∈ member.produces, ∀ name ∈ produced.parameters, name ∈ d.names)
    ⟨fun ⟨h₁, h₂, h₃⟩ => ⟨h₁, h₂, h₃⟩, fun ⟨h₁, h₂, h₃⟩ => ⟨h₁, h₂, h₃⟩⟩

/-- A name has one definition. -/
def Unambiguous (catalog : Catalog) : Prop :=
  (catalog.definitions.map (·.type.name)).Nodup

theorem Unambiguous.define (h : catalog.Unambiguous) (d : Definition) :
    (catalog.define d).Unambiguous := by
  unfold Catalog.define
  split
  · have hnames : (catalog.definitions.map fun old =>
        if old.type.name == d.type.name then d else old).map (·.type.name) =
          catalog.definitions.map (·.type.name) := by
      rw [List.map_map]
      refine List.map_congr_left fun old _ => ?_
      by_cases hname : old.type.name = d.type.name
      · simp [hname]
      · simp [hname]
    unfold Unambiguous
    rwa [hnames]
  · next hnew =>
    have hfresh : d.type.name ∉ catalog.definitions.map (·.type.name) := by
      simpa using hnew
    unfold Unambiguous
    rw [List.map_append, List.nodup_append_comm]
    exact List.nodup_cons.2 ⟨hfresh, h⟩

/-- Catalogs that are put together one definition after another are unambiguous. -/
theorem unambiguous_ofDefinitions (definitions : List Definition) :
    (ofDefinitions definitions).Unambiguous := by
  have hfold (catalog : Catalog) (h : catalog.Unambiguous) :
      (definitions.foldl Catalog.define catalog).Unambiguous := by
    induction definitions generalizing catalog with
    | nil => exact h
    | cons d definitions ih => exact ih _ (h.define d)
  exact hfold empty List.nodup_nil

theorem Unambiguous.definition?_eq (h : catalog.Unambiguous) {d : Definition}
    (hd : d ∈ catalog.definitions) (hnamed : d.type.isNamed) :
    catalog.definition? d.type = some d := by
  unfold definition?
  rw [if_pos hnamed]
  have hfound : (catalog.definitions.find? (·.type.name == d.type.name)).isSome :=
    List.find?_isSome.2 ⟨d, hd, beq_self_eq_true _⟩
  obtain ⟨other, hother⟩ := Option.isSome_iff_exists.1 hfound
  have hname : other.type.name = d.type.name := by simpa using List.find?_some hother
  rw [hother, List.inj_on_of_nodup_map h (List.mem_of_find?_eq_some hother) hd hname]

theorem directBases_of_not_isNamed (h : ¬ type.isNamed) : catalog.directBases type = [] := by
  unfold directBases definition?
  rw [if_neg h]

/-- Only classes, interfaces and structs have bases. -/
theorem eq_nil_of_not_isNamed (h : ¬ type.isNamed) {depth : Nat} {bases : List TypeExpr}
    (hbases : catalog.baseTypes? depth type = some bases) : bases = [] := by
  cases depth with
  | zero => cases hbases
  | succ depth =>
    rw [baseTypes?, addBases, directBases_of_not_isNamed h] at hbases
    exact (Option.some.inj hbases).symm

theorem ancestorKeys_congr {a b : TypeExpr} (h : a.same b) :
    catalog.ancestorKeys a = catalog.ancestorKeys b := by
  have hsubset {a b : TypeExpr} (h : a.same b) :
      catalog.ancestorKeys a ⊆ catalog.ancestorKeys b := by
    rintro key ⟨base, hbase, rfl⟩
    obtain ⟨other, hother, hsame⟩ := hbase.congr h
    exact ⟨other, hother, TypeExpr.same_iff.1 hsame⟩
  exact Set.Subset.antisymm (hsubset h) (hsubset (by rwa [TypeExpr.same_comm]))

section Scoped

variable (h : catalog.Scoped)
include h

theorem Scoped.of_mem_directBases {base : TypeExpr} (hbase : base ∈ catalog.directBases type) :
    base.isNamed ∧ catalog.Filled base := by
  obtain ⟨d, hd, declared, hdeclared, rfl⟩ := declared_of_mem_directBases hbase
  have hmem := mem_of_definition? hd
  have hnamed := h.named d hmem declared hdeclared
  have hkind := TypeExpr.kind_ne_of_isNamed hnamed
  constructor
  · rwa [TypeExpr.substitute_eq hkind]
  · intro own hown
    rw [definition?_substitute hkind] at hown
    rw [TypeExpr.substitute_eq hkind, List.length_map]
    exact h.filled d hmem declared hdeclared own hown

theorem Scoped.of_ancestor {base : TypeExpr} (hbase : catalog.Ancestor type base) :
    base.isNamed ∧ catalog.Filled base := by
  cases hbase with
  | direct hdirect => exact h.of_mem_directBases hdirect
  | further _ hdirect => exact h.of_mem_directBases hdirect

/-- The ancestors of an instance are the instances of the ancestors. -/
theorem Scoped.ancestor_substitute_iff (hnamed : type.isNamed) (hfilled : catalog.Filled type)
    (σ : Bindings) (other : TypeExpr) : catalog.Ancestor (type.substitute σ) other ↔
      ∃ base, catalog.Ancestor type base ∧ base.substitute σ = other := by
  have hlift {x : TypeExpr} (hx : x.isNamed ∧ catalog.Filled x) :
      catalog.directBases (x.substitute σ) =
        (catalog.directBases x).map (TypeExpr.substitute σ) :=
    directBases_substitute h.isScoped (TypeExpr.kind_ne_of_isNamed hx.1) hx.2 σ
  constructor
  · intro hother
    induction hother with
    | direct hdirect =>
      rw [hlift ⟨hnamed, hfilled⟩] at hdirect
      obtain ⟨base, hbase, rfl⟩ := List.mem_map.1 hdirect
      exact ⟨base, .direct hbase, rfl⟩
    | further _ hdirect ih =>
      obtain ⟨middle, hmiddle, rfl⟩ := ih
      rw [hlift (h.of_ancestor hmiddle)] at hdirect
      obtain ⟨base, hbase, rfl⟩ := List.mem_map.1 hdirect
      exact ⟨base, hmiddle.further hbase, rfl⟩
  · rintro ⟨base, hbase, rfl⟩
    induction hbase with
    | direct hdirect =>
      refine .direct ?_
      rw [hlift ⟨hnamed, hfilled⟩]
      exact List.mem_map_of_mem hdirect
    | further hmiddle hdirect ih =>
      refine ih.further ?_
      rw [hlift (h.of_ancestor hmiddle)]
      exact List.mem_map_of_mem hdirect

end Scoped

/-- An instance is the open form with its parameters replaced. -/
theorem substitute_bindings_same {d : Definition} (hscoped : d.IsScoped) (hdistinct : d.names.Nodup)
    (hkind : d.type.kind ≠ .parameter) {args : List TypeExpr}
    (hargs : args.length = d.type.args.length) :
    (d.type.substitute (d.type.bindings (d.type.construct args))).same (d.type.construct args) := by
  rw [TypeExpr.substitute_eq hkind]
  refine TypeExpr.same_construct d.type ?_
  exact TypeExpr.map_substitute_bindAll hscoped.parameters hdistinct hargs.symm

/-- The keys of an instance are the instances of the keys of the open form. -/
theorem Scoped.mem_keys_substitute (h : catalog.Scoped) (hnamed : type.isNamed)
    (hfilled : catalog.Filled type) {depth : Nat} {bases : List TypeExpr}
    (hbases : catalog.baseTypes? depth type = some bases) (σ : Bindings) {key : TypeExpr}
    (hkey : key ≠ (type.substitute σ).unannotated) :
    key ∈ catalog.ancestorKeys (type.substitute σ) ↔
      key ∈ (bases.map (TypeExpr.substitute σ)).map TypeExpr.unannotated := by
  obtain ⟨hancestors, hlisted⟩ := ancestors_of_baseTypes? hbases
  rw [List.map_map]
  constructor
  · rintro ⟨other, hother, rfl⟩
    obtain ⟨base, hbase, rfl⟩ := (h.ancestor_substitute_iff hnamed hfilled σ other).1 hother
    obtain ⟨listed, hmem, hsame⟩ := hlisted base hbase
    have hreplaced : (listed.substitute σ).same (base.substitute σ) :=
      TypeExpr.same_substitute hsame rfl
    rcases List.mem_cons.1 hmem with rfl | hmem
    · exact absurd (TypeExpr.same_iff.1 hreplaced).symm hkey
    · rw [← TypeExpr.same_iff.1 hreplaced]
      exact List.mem_map_of_mem hmem
  · intro hmem
    obtain ⟨base, hbase, rfl⟩ := List.mem_map.1 hmem
    exact ⟨_, (h.ancestor_substitute_iff hnamed hfilled σ _).2 ⟨base, hancestors base hbase, rfl⟩,
      rfl⟩

/-- Bases can be listed for the open form of a definition once and for all: over any arguments they
are what comes of replacing the parameters by the arguments in each of them, up to annotations and
without the type itself. -/
theorem Scoped.baseTypes?_construct (h : catalog.Scoped) (hdistinct : catalog.Distinct)
    (hunambiguous : catalog.Unambiguous) {d : Definition} (hd : d ∈ catalog.definitions)
    {args : List TypeExpr} (hargs : args.length = d.type.args.length)
    {depth depth' : Nat} {bases others : List TypeExpr}
    (hopen : catalog.baseTypes? depth d.type = some bases)
    (hinstance : catalog.baseTypes? depth' (d.type.construct args) = some others) :
    (others.map TypeExpr.unannotated).toFinset =
      ((bases.map (TypeExpr.substitute (d.type.bindings (d.type.construct args)))).map
        TypeExpr.unannotated).toFinset.erase (d.type.construct args).unannotated := by
  by_cases hnamed : d.type.isNamed
  · have hfilled : catalog.Filled d.type := fun own hown => by
      rw [Option.some.inj ((hunambiguous.definition?_eq hd hnamed).symm.trans hown)]
    have hsame := substitute_bindings_same (h.isScoped d hd) (hdistinct d hd)
      (TypeExpr.kind_ne_of_isNamed hnamed) hargs
    ext key
    rw [Finset.mem_erase, List.mem_toFinset, List.mem_toFinset, mem_keys_baseTypes? hinstance,
      ← ancestorKeys_congr hsame, ← TypeExpr.same_iff.1 hsame, and_comm]
    exact and_congr_right (h.mem_keys_substitute hnamed hfilled hopen _)
  · have hother : ¬ (d.type.construct args).isNamed := hnamed
    rw [eq_nil_of_not_isNamed hnamed hopen, eq_nil_of_not_isNamed hother hinstance]
    rfl

end Catalog

namespace Journals

def entry : TypeExpr := ⟨.classType, "books::Entry", [], false⟩
def content : TypeExpr := ⟨.parameter, "T", [], false⟩

def store (content : TypeExpr) : TypeExpr := ⟨.interfaceType, "books::Store", [content], false⟩
def journal (content : TypeExpr) : TypeExpr := ⟨.classType, "books::Journal", [content], false⟩

/-- Every journal is a store of what it holds, and a journal of entries. -/
def journalDefinition : Definition where
  type := journal content
  bases := [store content, journal entry]
  constructors := [⟨Method.constructorName, .publicAccess, false,
    [⟨"store", store content, [], none⟩], none⟩]
  members := [.property "Archive" (journal ⟨.array, "", [content], false⟩)]
  declarations := []
  isModule := false

def catalog : Catalog := .ofDefinitions [
  Definition.declaring (store content) [] [], journalDefinition]

end Journals

open Journals in
/-- Of the three bases of the open journal, two are the same over entries, and one is the journal of
entries itself. -/
theorem journal_bases_of_entries :
    catalog.baseTypes? 4 journalDefinition.type =
      some [store content, journal entry, store entry] ∧
    catalog.baseTypes? 4 (journalDefinition.type.construct [entry]) = some [store entry] ∧
    [store content, journal entry, store entry].map
        (TypeExpr.substitute (journalDefinition.type.bindings (journal entry))) =
      [store entry, journal entry, store entry] ∧
    ([store entry].map TypeExpr.unannotated).toFinset =
      (([store content, journal entry, store entry].map
        (TypeExpr.substitute (journalDefinition.type.bindings (journal entry)))).map
        TypeExpr.unannotated).toFinset.erase (journal entry).unannotated := by
  have hscoped : catalog.Scoped := by decide +kernel
  have hdistinct : catalog.Distinct := by decide +kernel
  have hmem : journalDefinition ∈ catalog.definitions := by decide +kernel
  have hopen : catalog.baseTypes? 4 journalDefinition.type =
      some [store content, journal entry, store entry] := by decide +kernel
  have hentries : catalog.baseTypes? 4 (journalDefinition.type.construct [entry]) =
      some [store entry] := by decide +kernel
  have hlength : [entry].length = journalDefinition.type.args.length := rfl
  exact ⟨hopen, hentries, by decide +kernel,
    hscoped.baseTypes?_construct hdistinct (Catalog.unambiguous_ofDefinitions _) hmem hlength
      hopen hentries⟩

namespace Catalog

variable {catalog : Catalog} {type : TypeExpr}

/-- What is bound to the parameters of a definition is closed where the type is. -/
theorem bindings_isClosed {d : Definition} (hscoped : d.IsScoped) (hclosed : type.isClosed)
    (hlength : d.type.args.length = type.args.length) {name : String} (hname : name ∈ d.names) :
    ∃ bound, (d.type.bindings type).lookup name = some bound ∧ bound.isClosed := by
  obtain ⟨bound, hbound⟩ := Option.isSome_iff_exists.1
    (TypeExpr.lookup_bindAll_isSome hscoped.parameters hlength hname)
  exact ⟨bound, hbound,
    (TypeExpr.isClosed_iff.1 hclosed).2 bound (TypeExpr.mem_of_lookup_bindAll hbound)⟩

theorem Scoped.isClosed_of_mem_directBases (h : catalog.Scoped) (hclosed : type.isClosed)
    (hfilled : catalog.Filled type) {base : TypeExpr} (hbase : base ∈ catalog.directBases type) :
    base.isClosed := by
  obtain ⟨d, hd, declared, hdeclared, rfl⟩ := declared_of_mem_directBases hbase
  have hscoped := h.isScoped d (mem_of_definition? hd)
  exact TypeExpr.isClosed_substitute fun name hname =>
    bindings_isClosed hscoped hclosed (hfilled d hd)
      (hscoped.mentions declared hdeclared name hname)

theorem Scoped.isClosed_of_ancestor (h : catalog.Scoped) (hclosed : type.isClosed)
    (hfilled : catalog.Filled type) {base : TypeExpr} (hbase : catalog.Ancestor type base) :
    base.isClosed := by
  induction hbase with
  | direct hdirect => exact h.isClosed_of_mem_directBases hclosed hfilled hdirect
  | further hmiddle hdirect ih =>
    exact h.isClosed_of_mem_directBases ih (h.of_ancestor hmiddle).2 hdirect

/-- No parameter gets out: everything that is answered for a closed type with as many arguments as
its definition has is closed, its bases as well as the types of the parameters of its constructors
and members and of what the members produce. -/
theorem Scoped.answers_isClosed (h : catalog.Scoped) (hmembers : catalog.MembersScoped)
    (hclosed : type.isClosed) (hfilled : catalog.Filled type) :
    (∀ depth bases, catalog.baseTypes? depth type = some bases → ∀ base ∈ bases, base.isClosed) ∧
    (∀ method ∈ catalog.constructors type, ∀ parameter ∈ method.parameters,
      parameter.type.isClosed) ∧
    ∀ name, ∀ member ∈ catalog.members type name,
      (∀ parameter ∈ member.parameters, parameter.type.isClosed) ∧
        ∀ produced ∈ member.produces, produced.isClosed := by
  have hreplaced {d : Definition} (hd : catalog.definition? type = some d) {mentioned : TypeExpr}
      (hnames : ∀ name ∈ mentioned.parameters, name ∈ d.names) :
      (mentioned.substitute (d.type.bindings type)).isClosed :=
    TypeExpr.isClosed_substitute fun name hname => bindings_isClosed
      (h.isScoped d (mem_of_definition? hd)) hclosed (hfilled d hd) (hnames name hname)
  refine ⟨fun depth bases hbases base hbase => ?_, fun method hmethod parameter hparameter => ?_,
    fun name member hmember => ?_⟩
  · exact h.isClosed_of_ancestor hclosed hfilled ((ancestors_of_baseTypes? hbases).1 base hbase)
  · unfold constructors at hmethod
    split at hmethod
    · cases hmethod
    next d hd =>
    split at hmethod
    · -- the implicit constructor has no parameters
      split at hmethod
      · obtain rfl := List.mem_singleton.1 hmethod
        cases hparameter
      · cases hmethod
    · obtain ⟨declared, hdeclared, rfl⟩ := List.mem_map.1 hmethod
      obtain ⟨own, hown, rfl⟩ := List.mem_map.1 hparameter
      exact hreplaced hd
        (hmembers.constructors d (mem_of_definition? hd) declared hdeclared own hown)
  · unfold members at hmember
    split at hmember
    · cases hmember
    next d hd =>
    obtain ⟨declared, hfiltered, rfl⟩ := List.mem_map.1 hmember
    have hdeclared := List.mem_of_mem_filter hfiltered
    have hmem := mem_of_definition? hd
    constructor
    · intro parameter hparameter
      rw [Member.parameters_substitute] at hparameter
      obtain ⟨own, hown, rfl⟩ := List.mem_map.1 hparameter
      exact hreplaced hd (hmembers.parameters d hmem declared hdeclared own hown)
    · intro produced hproduced
      rw [Member.produces_substitute, Option.mem_def] at hproduced
      obtain ⟨own, hown, rfl⟩ := Option.map_eq_some_iff.1 hproduced
      exact hreplaced hd (hmembers.produces d hmem declared hdeclared own hown)

end Catalog

open Journals in
/-- A journal of entries is stored with entries, archived in journals of arrays of them, and none of
its answers has the parameter left. -/
theorem journal_answers_closed :
    catalog.baseTypes? 4 (journal entry) = some [store entry] ∧
    catalog.members (journal entry) "Archive" =
      [.property "Archive" (journal ⟨.array, "", [entry], false⟩)] ∧
    (∀ base ∈ [store entry], base.isClosed) ∧
    (∀ method ∈ catalog.constructors (journal entry), ∀ parameter ∈ method.parameters,
      parameter.type.isClosed) ∧
    ∀ member ∈ catalog.members (journal entry) "Archive", ∀ produced ∈ member.produces,
      produced.isClosed := by
  have hscoped : catalog.Scoped := by decide +kernel
  have hmembers : catalog.MembersScoped := by decide +kernel
  have hclosed : (journal entry).isClosed := by decide
  have hfilled : catalog.Filled (journal entry) := by decide +kernel
  have hbases : catalog.baseTypes? 4 (journal entry) = some [store entry] := by decide +kernel
  have hanswers := Catalog.Scoped.answers_isClosed hscoped hmembers hclosed hfilled
  exact ⟨hbases, by decide +kernel, hanswers.1 4 _ hbases, hanswers.2.1,
    fun member hmember => (hanswers.2.2 "Archive" member hmember).2⟩

end Wiring
