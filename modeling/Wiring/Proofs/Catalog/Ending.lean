import Mathlib.Data.Finset.Card
import Mathlib.Data.Set.Finite.Lattice
import Mathlib.Data.Set.Finite.List
import Wiring.Proofs.Catalog.Instance

/-!
Where the walk over the bases of a type ends. Nothing stops it but what it found before, so it ends
exactly where the type has finitely many ancestors. There are finitely many definitions, but a base
may nest a parameter of its definition below an argument, and then makes larger types of those at
hand. As long as no definition is come back to through such a base, every walk ends, however the
definitions name each other.
-/

namespace Wiring

namespace TypeExpr

mutual
/-- The type, and what it is made of. -/
def parts : TypeExpr → List TypeExpr
  | ⟨kind, name, args, nullable⟩ => ⟨kind, name, args, nullable⟩ :: partsAll args

def partsAll : List TypeExpr → List TypeExpr
  | [] => []
  | type :: types => type.parts ++ partsAll types
end

theorem mem_partsAll {part : TypeExpr} {types : List TypeExpr} :
    part ∈ partsAll types ↔ ∃ type ∈ types, part ∈ type.parts := by
  induction types with
  | nil => simp [partsAll]
  | cons type types ih => simp [partsAll, ih]

theorem mem_partsAll_of_mem {type : TypeExpr} {types : List TypeExpr} (h : type ∈ types) :
    type ∈ partsAll types := by
  refine mem_partsAll.2 ⟨type, h, ?_⟩
  obtain ⟨kind, name, args, nullable⟩ := type
  exact List.mem_cons_self

theorem arg_mem_parts {type part arg : TypeExpr} (h : part ∈ type.parts) (harg : arg ∈ part.args) :
    arg ∈ type.parts := by
  induction type with
  | mk kind name args nullable ih =>
    rcases List.mem_cons.1 h with rfl | h
    · exact List.mem_cons_of_mem _ (mem_partsAll_of_mem harg)
    · obtain ⟨type, htype, hpart⟩ := mem_partsAll.1 h
      exact List.mem_cons_of_mem _ (mem_partsAll.2 ⟨type, htype, ih type htype hpart⟩)

theorem arg_mem_partsAll {types : List TypeExpr} {part arg : TypeExpr} (h : part ∈ partsAll types)
    (harg : arg ∈ part.args) : arg ∈ partsAll types := by
  obtain ⟨type, htype, hpart⟩ := mem_partsAll.1 h
  exact mem_partsAll.2 ⟨type, htype, arg_mem_parts hpart harg⟩

/-- No parameter stands deeper in the type than as an argument. -/
def isShallow (type : TypeExpr) : Bool :=
  type.args.all fun arg => arg.kind == .parameter || arg.isClosed

theorem substitute_of_isClosed {type : TypeExpr} (h : type.isClosed) (σ : Bindings) :
    type.substitute σ = type := by
  induction type with
  | mk kind name args nullable ih =>
    have hopen : kind ≠ .parameter ∧ ∀ arg ∈ args, arg.isClosed := by
      simpa [isClosed, isOpen, anyOpen_eq_any] using h
    rw [substitute_of_ne hopen.1]
    congr 1
    exact (List.map_congr_left fun arg harg => ih arg harg (hopen.2 arg harg)).trans
      (List.map_id args)

theorem name_unannotated (type : TypeExpr) : type.unannotated.name = type.name :=
  (name_eq_of_same (same_unannotated type)).symm

theorem args_unannotated (type : TypeExpr) :
    type.unannotated.args = type.args.map unannotated := by
  obtain ⟨kind, name, args, nullable⟩ := type
  exact unannotatedAll_eq_map args

end TypeExpr

namespace Catalog

variable {catalog : Catalog} {type base : TypeExpr}

/-- The ancestors of a type, up to annotations. -/
def ancestorKeys (catalog : Catalog) (type : TypeExpr) : Set TypeExpr :=
  {key | ∃ base, catalog.Ancestor type base ∧ base.unannotated = key}

/-! A walk takes a new key at each level. -/

/-- The keys that were not found yet. -/
def unseen (keys : Finset TypeExpr) (found : List TypeExpr) : Finset TypeExpr :=
  keys.filter (· ∉ found.map TypeExpr.unannotated)

theorem unseen_append_subset (keys : Finset TypeExpr) (found new : List TypeExpr) :
    unseen keys (found ++ new) ⊆ unseen keys found := by
  intro key hkey
  simp only [unseen, Finset.mem_filter, List.map_append, List.mem_append, not_or] at hkey ⊢
  exact ⟨hkey.1, hkey.2.1⟩

theorem card_unseen_enter {keys : Finset TypeExpr} {found : List TypeExpr}
    (hnew : TypeExpr.isNew found base) (hbase : base.unannotated ∈ keys) :
    (unseen keys (found ++ [base])).card < (unseen keys found).card := by
  have hunseen : base.unannotated ∈ unseen keys found := by
    refine Finset.mem_filter.2 ⟨hbase, fun hmem => ?_⟩
    obtain ⟨other, hother, hsame⟩ := List.mem_map.1 hmem
    exact TypeExpr.isNew_iff.1 hnew other hother (TypeExpr.same_iff.2 hsame.symm)
  refine Finset.card_lt_card ⟨unseen_append_subset keys found [base], fun hsubset => ?_⟩
  have hstill := (Finset.mem_filter.1 (hsubset hunseen)).2
  exact hstill (List.mem_map_of_mem (List.mem_append_right found (List.mem_singleton_self base)))

/-- A walk is no deeper than there are keys to find. -/
theorem addBases_isSome_of_unseen {keys : Finset TypeExpr} {found : List TypeExpr} {depth : Nat}
    (hkeys : ∀ base, catalog.Ancestor type base → base.unannotated ∈ keys)
    (hdepth : (unseen keys found).card < depth) : (catalog.addBases depth found type).isSome := by
  induction depth generalizing type found with
  | zero => cases hdepth
  | succ depth ih =>
    -- bases that were walked before leave no more to find for those behind them
    refine isSome_foldlM (P := fun acc => (unseen keys acc).card ≤ (unseen keys found).card)
      (fun base hbase acc hacc => ?_) (Nat.le_refl _)
    split
    · next hnew =>
      have hless := card_unseen_enter hnew (hkeys base (.direct hbase))
      obtain ⟨next, hnext⟩ := Option.isSome_iff_exists.1
        (ih (fun further hfurther => hkeys further ((Ancestor.direct hbase).trans hfurther))
          (by omega : (unseen keys (acc ++ [base])).card < depth))
      refine ⟨next, hnext, ?_⟩
      obtain ⟨⟨new, rfl, -⟩, -⟩ := walks_of_addBases hnext
      have hrest := Finset.card_le_card (unseen_append_subset keys (acc ++ [base]) new)
      omega
    · exact ⟨acc, rfl, hacc⟩

theorem walkEnds_of_finite (h : (catalog.ancestorKeys type).Finite) : catalog.WalkEnds type := by
  refine ⟨(unseen h.toFinset [type]).card + 1, ?_⟩
  rw [baseTypes?, Option.isSome_map]
  exact addBases_isSome_of_unseen (fun base hbase => h.mem_toFinset.2 ⟨base, hbase, rfl⟩)
    (Nat.lt_succ_self _)

theorem WalkEnds.finite (h : catalog.WalkEnds type) : (catalog.ancestorKeys type).Finite := by
  obtain ⟨depth, hdepth⟩ := h
  obtain ⟨bases, hbases⟩ := Option.isSome_iff_exists.1 hdepth
  refine (List.finite_toSet ((type :: bases).map TypeExpr.unannotated)).subset ?_
  rintro key ⟨base, hbase, rfl⟩
  obtain ⟨other, hother, hsame⟩ := (ancestors_of_baseTypes? hbases).2 base hbase
  exact List.mem_map.2 ⟨other, hother, TypeExpr.same_iff.1 hsame⟩

/-! Without nesting there are finitely many types to come to. -/

def declaredBases (catalog : Catalog) : List TypeExpr := catalog.definitions.flatMap (·.bases)

/-- What the type and the declared bases are made of. -/
def pieces (catalog : Catalog) (type : TypeExpr) : List TypeExpr :=
  (TypeExpr.partsAll (type :: catalog.declaredBases)).map TypeExpr.unannotated

/-- The pieces, and the declared bases over pieces in the place of their arguments. -/
def assembled (catalog : Catalog) (type : TypeExpr) : Set TypeExpr :=
  {key | key ∈ catalog.pieces type} ∪
    ⋃ base ∈ {base | base ∈ catalog.declaredBases}, base.construct ''
      {args | args.length = base.args.length ∧ ∀ arg ∈ args, arg ∈ catalog.pieces type}

theorem finite_assembled (catalog : Catalog) (type : TypeExpr) :
    (catalog.assembled type).Finite := by
  have hargs (n : Nat) :
      {args : List TypeExpr |
        args.length = n ∧ ∀ arg ∈ args, arg ∈ catalog.pieces type}.Finite := by
    refine ((List.finite_length_eq {arg // arg ∈ catalog.pieces type} n).image
      (List.map Subtype.val)).subset ?_
    rintro args ⟨hlength, hpieces⟩
    lift args to List {arg // arg ∈ catalog.pieces type} using hpieces
    exact ⟨args, by simpa using hlength, rfl⟩
  exact (List.finite_toSet _).union
    ((List.finite_toSet _).biUnion fun base _ => (hargs _).image base.construct)

theorem unannotated_mem_pieces {part : TypeExpr}
    (h : part ∈ TypeExpr.partsAll (type :: catalog.declaredBases)) :
    part.unannotated ∈ catalog.pieces type := List.mem_map_of_mem h

theorem arg_mem_pieces {key arg : TypeExpr} (h : key ∈ catalog.assembled type)
    (harg : arg ∈ key.args) : arg.unannotated ∈ catalog.pieces type := by
  have hpiece : arg ∈ catalog.pieces type := by
    rcases h with h | h
    · obtain ⟨part, hpart, rfl⟩ := List.mem_map.1 h
      rw [TypeExpr.args_unannotated] at harg
      obtain ⟨inner, hinner, rfl⟩ := List.mem_map.1 harg
      exact unannotated_mem_pieces (TypeExpr.arg_mem_partsAll hpart hinner)
    · simp only [Set.mem_iUnion] at h
      obtain ⟨base, -, args, ⟨-, hpieces⟩, rfl⟩ := h
      exact hpieces arg harg
  obtain ⟨part, -, rfl⟩ := List.mem_map.1 hpiece
  rwa [TypeExpr.unannotated_unannotated]

/-- Each base goes down the rank of its definition, or stays there and nests no parameter. -/
def NonExpansive (catalog : Catalog) (rank : String → Nat) : Prop :=
  ∀ d ∈ catalog.definitions, ∀ base ∈ d.bases, base.kind ≠ .parameter ∧
    (rank base.name < rank d.type.name ∨
      rank base.name ≤ rank d.type.name ∧ base.isShallow)

/-- What is put together from pieces, no higher than the limit. -/
def level (catalog : Catalog) (rank : String → Nat) (type : TypeExpr) (limit : Nat) :
    Set TypeExpr :=
  {key | key ∈ catalog.assembled type ∧ rank key.name ≤ limit}

/-- The bases of these that are lower than the limit. -/
def lower (catalog : Catalog) (rank : String → Nat) (type : TypeExpr) (limit : Nat) :
    Set TypeExpr :=
  ⋃ key ∈ catalog.level rank type limit,
    {base | base ∈ catalog.directBases key ∧ rank base.name < limit}

/-- What a walk comes to at the limit, and below it through those bases. -/
def onWay (catalog : Catalog) (rank : String → Nat) (type : TypeExpr) (limit : Nat) :
    Set TypeExpr :=
  catalog.level rank type limit ∪
    ⋃ base ∈ catalog.lower rank type limit, insert base.unannotated (catalog.ancestorKeys base)

theorem finite_level (catalog : Catalog) (rank : String → Nat) (type : TypeExpr) (limit : Nat) :
    (catalog.level rank type limit).Finite :=
  (catalog.finite_assembled type).subset fun _ hkey => hkey.1

theorem finite_lower (catalog : Catalog) (rank : String → Nat) (type : TypeExpr) (limit : Nat) :
    (catalog.lower rank type limit).Finite :=
  (catalog.finite_level rank type limit).biUnion fun key _ =>
    (List.finite_toSet (catalog.directBases key)).subset fun _ hbase => hbase.1

/-- A parameter comes to an argument, and what is closed stays as it is. -/
theorem substituted_mem_pieces {key arg : TypeExpr} {definition : Definition}
    (hkey : key ∈ catalog.assembled type) (hpart : arg.unannotated ∈ catalog.pieces type)
    (hshallow : arg.kind == .parameter || arg.isClosed) :
    (arg.substitute (definition.type.bindings key)).unannotated ∈ catalog.pieces type := by
  rcases Bool.or_eq_true_iff.1 hshallow with hparameter | hclosed
  · obtain ⟨kind, name, args, nullable⟩ := arg
    obtain rfl : kind = .parameter := by simpa using hparameter
    cases hlookup : (definition.type.bindings key).lookup name with
    | none => simpa only [TypeExpr.substitute, hlookup] using hpart
    | some bound =>
      rw [TypeExpr.substitute_bound hlookup, TypeExpr.unannotated_annotated]
      exact arg_mem_pieces hkey (TypeExpr.mem_of_lookup_bindAll hlookup)
  · rwa [TypeExpr.substitute_of_isClosed hclosed]

section Ranked

variable {rank : String → Nat} (h : catalog.NonExpansive rank)
include h

/-- What stays at the rank is put together from pieces again. -/
theorem NonExpansive.of_mem_directBases {key : TypeExpr} (hkey : key ∈ catalog.assembled type)
    (hbase : base ∈ catalog.directBases key) : rank base.name < rank key.name ∨
      rank base.name ≤ rank key.name ∧ base.unannotated ∈ catalog.assembled type := by
  obtain ⟨d, hd, declared, hdeclared, rfl⟩ := declared_of_mem_directBases hbase
  have hd' := mem_of_definition? hd
  obtain ⟨hkind, hrank⟩ := h d hd' declared hdeclared
  rw [TypeExpr.substitute_eq hkind, ← name_of_definition? hd]
  refine hrank.imp_right fun ⟨hle, hshallow⟩ => ⟨hle, Or.inr ?_⟩
  have hmem : declared ∈ catalog.declaredBases := List.mem_flatMap.2 ⟨d, hd', hdeclared⟩
  simp only [Set.mem_iUnion]
  refine ⟨declared, hmem, declared.args.map fun arg =>
    (arg.substitute (d.type.bindings key)).unannotated, ⟨List.length_map _, ?_⟩, ?_⟩
  · intro piece hpiece
    obtain ⟨arg, harg, rfl⟩ := List.mem_map.1 hpiece
    have hpart : arg.unannotated ∈ catalog.pieces type := unannotated_mem_pieces
      (TypeExpr.arg_mem_partsAll (TypeExpr.mem_partsAll_of_mem (List.mem_cons_of_mem _ hmem)) harg)
    exact substituted_mem_pieces hkey hpart (List.all_eq_true.1 hshallow arg harg)
  · obtain ⟨kind, name, args, nullable⟩ := declared
    simp [TypeExpr.unannotated, TypeExpr.construct, TypeExpr.unannotatedAll_eq_map]

/-- A base of what is on the way is on the way. -/
theorem NonExpansive.onWay_of_mem_directBases {limit : Nat} {other : TypeExpr}
    (hother : other.unannotated ∈ catalog.onWay rank type limit)
    (hbase : base ∈ catalog.directBases other) :
    base.unannotated ∈ catalog.onWay rank type limit := by
  rcases hother with hlevel | hlower
  · obtain ⟨further, hfurther, hsame⟩ := directBases_congr (TypeExpr.same_unannotated other) hbase
    rw [← TypeExpr.same_iff.1 hsame]
    rcases h.of_mem_directBases hlevel.1 hfurther with hless | ⟨hle, hassembled⟩
    · refine Or.inr (Set.mem_biUnion ?_ (Set.mem_insert _ _))
      exact Set.mem_biUnion hlevel ⟨hfurther, Nat.lt_of_lt_of_le hless hlevel.2⟩
    · refine Or.inl ⟨hassembled, ?_⟩
      rw [TypeExpr.name_unannotated]
      exact Nat.le_trans hle hlevel.2
  · simp only [Set.mem_iUnion] at hlower
    obtain ⟨entered, hentered, hbelow⟩ := hlower
    refine Or.inr (Set.mem_biUnion hentered (Or.inr ?_))
    rcases hbelow with heq | ⟨middle, hmiddle, heq⟩
    · obtain ⟨further, hfurther, hsame⟩ := directBases_congr (TypeExpr.same_iff.2 heq) hbase
      exact ⟨further, .direct hfurther, TypeExpr.same_iff.1 hsame⟩
    · obtain ⟨further, hfurther, hsame⟩ :=
        directBases_congr (TypeExpr.same_iff.2 heq.symm) hbase
      exact ⟨further, hmiddle.further hfurther, TypeExpr.same_iff.1 hsame⟩

theorem NonExpansive.ancestorKeys_subset (type : TypeExpr) :
    catalog.ancestorKeys type ⊆ catalog.onWay rank type (rank type.name) := by
  have htype : type.unannotated ∈ catalog.onWay rank type (rank type.name) := by
    refine Or.inl ⟨Or.inl (unannotated_mem_pieces ?_), ?_⟩
    · exact TypeExpr.mem_partsAll_of_mem List.mem_cons_self
    · rw [TypeExpr.name_unannotated]
  rintro key ⟨base, hbase, rfl⟩
  induction hbase with
  | direct hdirect => exact h.onWay_of_mem_directBases htype hdirect
  | further _ hdirect ih => exact h.onWay_of_mem_directBases ih hdirect

theorem NonExpansive.finite (type : TypeExpr) : (catalog.ancestorKeys type).Finite := by
  induction hrank : rank type.name using Nat.strong_induction_on generalizing type with
  | _ limit ih =>
    refine Set.Finite.subset ?_ (h.ancestorKeys_subset type)
    refine (catalog.finite_level rank type _).union
      ((catalog.finite_lower rank type _).biUnion fun base hbase => ?_)
    simp only [lower, Set.mem_iUnion] at hbase
    obtain ⟨key, -, -, hless⟩ := hbase
    exact (ih (rank base.name) (hrank ▸ hless) base rfl).insert base.unannotated

end Ranked

/-- The walk over the bases of a type ends exactly where the type has finitely many ancestors, up to
annotations. So it does where the definitions can be ranked such that a base that nests a parameter
is always lower than its definition, and no base is higher: however the definitions inherit from one
another in circles, the bases that nest are left behind one by one. -/
theorem walkEnds_iff_finite (catalog : Catalog) (type : TypeExpr) :
    (catalog.WalkEnds type ↔ (catalog.ancestorKeys type).Finite) ∧
      ((∃ rank, catalog.NonExpansive rank) → catalog.WalkEnds type) :=
  ⟨⟨WalkEnds.finite, walkEnds_of_finite⟩, fun ⟨_, h⟩ => walkEnds_of_finite (h.finite type)⟩

end Catalog

namespace Rings

def user : TypeExpr := ⟨.classType, "app::User", [], false⟩
def order : TypeExpr := ⟨.classType, "app::Order", [], false⟩
def parameter (name : String) : TypeExpr := ⟨.parameter, name, [], false⟩

def node (content : TypeExpr) : TypeExpr := ⟨.interfaceType, "app::Node", [content], false⟩
def link (content : TypeExpr) : TypeExpr := ⟨.interfaceType, "app::Link", [content], false⟩
def pair (key value : TypeExpr) : TypeExpr := ⟨.classType, "app::Pair", [key, value], false⟩
def table (key value : TypeExpr) : TypeExpr := ⟨.classType, "app::Table", [key, value], false⟩

/-- Nodes are links and links are nodes; a table is a node of pairs. -/
def catalog : Catalog := .ofDefinitions [
  { Definition.declaring (node (parameter "T")) [] [] with bases := [link (parameter "T")] },
  { Definition.declaring (link (parameter "T")) [] [] with bases := [node (parameter "T")] },
  { Definition.declaring (table (parameter "K") (parameter "V")) [] [] with
    bases := [node (pair (parameter "K") (parameter "V"))] }]

/-- Tables stand above nodes and links. -/
def rank (name : String) : Nat := if name = "app::Table" then 1 else 0

end Rings

/-- The walk from a table enters the circle and leaves it after one round. -/
theorem table_walk_ends :
    Rings.catalog.WalkEnds (Rings.table Rings.user Rings.order) ∧
      Rings.catalog.baseTypes? 4 (Rings.table Rings.user Rings.order) =
        some [Rings.node (Rings.pair Rings.user Rings.order),
          Rings.link (Rings.pair Rings.user Rings.order)] :=
  ⟨(Catalog.walkEnds_iff_finite _ _).2 ⟨Rings.rank, by unfold Catalog.NonExpansive; decide +kernel⟩,
    by decide +kernel⟩

namespace Towers

def user : TypeExpr := ⟨.classType, "app::User", [], false⟩
def level : TypeExpr := ⟨.parameter, "T", [], false⟩
def tower (base : TypeExpr) : TypeExpr := ⟨.classType, "app::Tower", [base], false⟩

/-- A tower is a tower of towers. -/
def catalog : Catalog := .ofDefinitions [
  { Definition.built (tower level) [] with bases := [tower (tower level)] }]

theorem directBases_tower (type : TypeExpr) :
    catalog.directBases (tower type) = [tower (tower type)] := by
  obtain ⟨kind, name, args, nullable⟩ := type
  have hdefinition : catalog.definition? (tower ⟨kind, name, args, nullable⟩) =
      some { Definition.built (tower level) [] with bases := [tower (tower level)] } := rfl
  rw [Catalog.directBases, hdefinition]
  simp [tower, level, Definition.built, TypeExpr.bindings, TypeExpr.substitute,
    TypeExpr.substituteAll]

theorem iterate_tower (height : Nat) :
    tower^[height + 1] user = tower (tower^[height] user) :=
  Function.iterate_succ_apply' tower height user

theorem ancestor_tower (height : Nat) :
    catalog.Ancestor (tower user) (tower^[height + 2] user) := by
  have hbase (height : Nat) :
      tower^[height + 2] user ∈ catalog.directBases (tower^[height + 1] user) := by
    rw [iterate_tower (height + 1), iterate_tower height, directBases_tower]
    exact List.mem_singleton_self _
  induction height with
  | zero => exact .direct (hbase 0)
  | succ height ih => exact ih.further (hbase (height + 1))

theorem unannotated_tower (height : Nat) :
    (tower^[height] user).unannotated = tower^[height] user := by
  induction height with
  | zero => rfl
  | succ height ih =>
    rw [iterate_tower]
    exact congrArg tower ih

theorem length_parts_tower (height : Nat) : (tower^[height] user).parts.length = height + 1 := by
  induction height with
  | zero => rfl
  | succ height ih =>
    rw [iterate_tower]
    simp [tower, TypeExpr.parts, TypeExpr.partsAll, ih]

end Towers

/-- Each tower is a tower of towers, which is larger, so the walk over its bases never ends. -/
theorem tower_walk_never_ends : ¬ Towers.catalog.WalkEnds (Towers.tower Towers.user) := by
  intro h
  have hinfinite : (Towers.catalog.ancestorKeys (Towers.tower Towers.user)).Infinite := by
    refine Set.infinite_of_injective_forall_mem (f := fun height => Towers.tower^[height + 2]
      Towers.user) (fun first second heq => ?_) fun height => ?_
    · have hlength := congrArg (fun type => type.parts.length) heq
      simpa only [Towers.length_parts_tower, Nat.add_right_cancel_iff] using hlength
    · exact ⟨_, Towers.ancestor_tower height, Towers.unannotated_tower _⟩
  exact hinfinite h.finite

end Wiring
