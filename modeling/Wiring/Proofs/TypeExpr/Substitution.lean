import Mathlib.Data.List.Nodup
import Wiring.TypeExpr.Identity

/-!
Substitution for type parameters. It respects identity up to annotations, one substitution after
another is a single one where every parameter is bound, and parameters that are distinct are
replaced by the arguments in their places.
-/

namespace Wiring

namespace Bindings

/-- The bindings with each bound type changed by `f`. -/
def mapTypes (f : TypeExpr → TypeExpr) (σ : Bindings) : Bindings :=
  σ.map fun entry => (entry.1, f entry.2)

theorem lookup_mapTypes (f : TypeExpr → TypeExpr) (σ : Bindings) (name : String) :
    (σ.mapTypes f).lookup name = (σ.lookup name).map f := by
  induction σ with
  | nil => rfl
  | cons entry σ ih =>
    obtain ⟨key, type⟩ := entry
    simp only [mapTypes, List.map_cons, List.lookup_cons] at ih ⊢
    cases name == key
    · exact ih
    · rfl

end Bindings

namespace TypeExpr

mutual
/-- The names of the type parameters that occur in the type. -/
def parameters : TypeExpr → List String
  | ⟨.parameter, name, _, _⟩ => [name]
  | ⟨_, _, args, _⟩ => parametersAll args

def parametersAll : List TypeExpr → List String
  | [] => []
  | type :: types => type.parameters ++ parametersAll types
end

theorem mem_parametersAll {name : String} {types : List TypeExpr} :
    name ∈ parametersAll types ↔ ∃ type ∈ types, name ∈ type.parameters := by
  induction types with
  | nil => simp [parametersAll]
  | cons type types ih => simp [parametersAll, ih]

theorem parameters_of_ne {kind : TypeKind} (h : kind ≠ .parameter) (name : String)
    (args : List TypeExpr) (nullable : Bool) :
    parameters ⟨kind, name, args, nullable⟩ = parametersAll args := by
  cases kind <;> first | rfl | exact absurd rfl h

theorem substitute_of_ne {kind : TypeKind} (h : kind ≠ .parameter) (σ : Bindings) (name : String)
    (args : List TypeExpr) (nullable : Bool) :
    substitute σ ⟨kind, name, args, nullable⟩ =
      ⟨kind, name, args.map (substitute σ), nullable⟩ := by
  rw [← substituteAll_eq_map]
  cases kind <;> first | rfl | exact absurd rfl h

/-- Apart from parameters, substitution changes arguments only. -/
theorem substitute_eq {type : TypeExpr} (h : type.kind ≠ .parameter) (σ : Bindings) :
    type.substitute σ = { type with args := type.args.map (substitute σ) } := by
  obtain ⟨kind, name, args, nullable⟩ := type
  exact substitute_of_ne h σ name args nullable

theorem substitute_bound {σ : Bindings} {name : String} {bound : TypeExpr}
    (h : σ.lookup name = some bound) (args : List TypeExpr) (nullable : Bool) :
    substitute σ ⟨.parameter, name, args, nullable⟩ =
      { bound with nullable := bound.nullable || nullable } := by
  simp only [substitute, h]

/-- The annotation of a parameter outlasts what is substituted for it. -/
theorem substitute_annotated (σ : Bindings) (type : TypeExpr) (nullable : Bool) :
    substitute σ { type with nullable := type.nullable || nullable } =
      { type.substitute σ with nullable := (type.substitute σ).nullable || nullable } := by
  obtain ⟨kind, name, args, own⟩ := type
  by_cases h : kind = .parameter
  · subst h
    simp only [substitute]
    cases σ.lookup name <;> simp [Bool.or_assoc]
  · simp only [substitute_of_ne h]

theorem unannotated_annotated (type : TypeExpr) (nullable : Bool) :
    unannotated { type with nullable := nullable } = type.unannotated := by
  obtain ⟨kind, name, args, own⟩ := type
  rfl

theorem unannotated_substitute (σ : Bindings) (type : TypeExpr) :
    (type.substitute σ).unannotated = type.unannotated.substitute (σ.mapTypes unannotated) := by
  induction type with
  | mk kind name args nullable ih =>
    by_cases h : kind = .parameter
    · subst h
      simp only [unannotated, substitute, Bindings.lookup_mapTypes]
      cases σ.lookup name with
      | none => rfl
      | some bound =>
        obtain ⟨kind', name', args', nullable'⟩ := bound
        simp [unannotated]
    · simp only [unannotated, substitute_of_ne h, unannotatedAll_eq_map, List.map_map]
      congr 1
      exact List.map_congr_left ih

/-- Types that are the same stay so under bindings to types that are the same. -/
theorem same_substitute {a b : TypeExpr} {σ τ : Bindings} (h : a.same b)
    (hστ : σ.mapTypes unannotated = τ.mapTypes unannotated) :
    (a.substitute σ).same (b.substitute τ) := by
  rw [same_iff, unannotated_substitute, unannotated_substitute, same_iff.1 h, hστ]

/-- One substitution after another, where the first binds every parameter. -/
theorem substitute_substitute (ρ σ : Bindings) {type : TypeExpr}
    (h : ∀ name ∈ type.parameters, (ρ.lookup name).isSome) :
    (type.substitute ρ).substitute σ = type.substitute (ρ.mapTypes (substitute σ)) := by
  induction type with
  | mk kind name args nullable ih =>
    by_cases hkind : kind = .parameter
    · subst hkind
      obtain ⟨bound, hbound⟩ := Option.isSome_iff_exists.1 (h name (by simp [parameters]))
      have hcomposed : (ρ.mapTypes (substitute σ)).lookup name = some (bound.substitute σ) := by
        rw [Bindings.lookup_mapTypes, hbound, Option.map_some]
      rw [substitute_bound hbound, substitute_bound hcomposed]
      exact substitute_annotated σ bound nullable
    · rw [parameters_of_ne hkind] at h
      simp only [substitute_of_ne hkind, List.map_map]
      congr 1
      refine List.map_congr_left fun arg harg => ih arg harg fun other hother => ?_
      exact h other (mem_parametersAll.2 ⟨arg, harg, hother⟩)

/-- The parameters among `pattern`, bound to what stands in their places. -/
def bindAll (pattern args : List TypeExpr) : Bindings :=
  (pattern.zip args).filterMap fun (parameter, arg) =>
    if parameter.kind = .parameter then some (parameter.name, arg) else none

theorem bindings_eq_bindAll (pattern type : TypeExpr) :
    pattern.bindings type = bindAll pattern.args type.args := rfl

theorem mapTypes_bindAll (f : TypeExpr → TypeExpr) (pattern args : List TypeExpr) :
    (bindAll pattern args).mapTypes f = bindAll pattern (args.map f) := by
  induction pattern generalizing args with
  | nil => rfl
  | cons parameter pattern ih =>
    cases args with
    | nil => rfl
    | cons arg args =>
      have hrest := ih args
      by_cases h : parameter.kind = .parameter <;>
        simpa [bindAll, Bindings.mapTypes, h] using hrest

theorem bindAll_cons {parameter : TypeExpr} (h : parameter.kind = .parameter) (arg : TypeExpr)
    (pattern args : List TypeExpr) :
    bindAll (parameter :: pattern) (arg :: args) =
      (parameter.name, arg) :: bindAll pattern args := by
  simp [bindAll, h]

theorem bindings_congr (pattern : TypeExpr) {a b : TypeExpr} (h : a.same b) :
    (pattern.bindings a).mapTypes unannotated = (pattern.bindings b).mapTypes unannotated := by
  have hargs := congrArg args (same_iff.1 h)
  obtain ⟨kind, name, args, nullable⟩ := a
  obtain ⟨kind', name', args', nullable'⟩ := b
  simp only [unannotated, unannotatedAll_eq_map] at hargs
  rw [bindings_eq_bindAll, bindings_eq_bindAll, mapTypes_bindAll, mapTypes_bindAll, hargs]

/-- Every parameter of the pattern is bound, if there are arguments for all. -/
theorem lookup_bindAll_isSome {pattern args : List TypeExpr}
    (hpattern : ∀ parameter ∈ pattern, parameter.kind = .parameter)
    (hlength : pattern.length = args.length) {name : String}
    (hname : name ∈ pattern.map (·.name)) : ((bindAll pattern args).lookup name).isSome := by
  induction pattern generalizing args with
  | nil => cases hname
  | cons parameter pattern ih =>
    obtain ⟨hkind, hrest⟩ := List.forall_mem_cons.1 hpattern
    cases args with
    | nil => cases hlength
    | cons arg args =>
      rw [bindAll_cons hkind, List.lookup_cons]
      cases hfirst : name == parameter.name with
      | true => rfl
      | false =>
        refine ih hrest (Nat.succ.inj hlength) ((List.mem_cons.1 hname).resolve_left ?_)
        simpa using hfirst

theorem mem_of_lookup_bindAll {pattern args : List TypeExpr} {name : String} {bound : TypeExpr}
    (h : (bindAll pattern args).lookup name = some bound) : bound ∈ args := by
  induction pattern generalizing args with
  | nil => cases h
  | cons parameter pattern ih =>
    cases args with
    | nil => cases h
    | cons arg args =>
      by_cases hkind : parameter.kind = .parameter
      · rw [bindAll_cons hkind, List.lookup_cons] at h
        split at h
        · cases h
          exact List.mem_cons_self
        · exact List.mem_cons_of_mem _ (ih h)
      · have hskip : bindAll (parameter :: pattern) (arg :: args) = bindAll pattern args := by
          simp [bindAll, hkind]
        rw [hskip] at h
        exact List.mem_cons_of_mem _ (ih h)

theorem substitute_cons_of_ne {parameter : TypeExpr} (h : parameter.kind = .parameter)
    {name : String} (hname : parameter.name ≠ name) (type : TypeExpr) (σ : Bindings) :
    parameter.substitute ((name, type) :: σ) = parameter.substitute σ := by
  obtain ⟨kind, name', args, nullable⟩ := parameter
  subst h
  simp [substitute, List.lookup_cons, beq_eq_false_iff_ne.2 hname]

/-- Distinct parameters are replaced by the arguments in their places. -/
theorem map_substitute_bindAll {pattern args : List TypeExpr}
    (hpattern : ∀ parameter ∈ pattern, parameter.kind = .parameter)
    (hdistinct : (pattern.map (·.name)).Nodup) (hlength : pattern.length = args.length) :
    (pattern.map (substitute (bindAll pattern args))).map unannotated = args.map unannotated := by
  induction pattern generalizing args with
  | nil =>
    cases args with
    | nil => rfl
    | cons _ _ => cases hlength
  | cons parameter pattern ih =>
    obtain ⟨hkind, hrest⟩ := List.forall_mem_cons.1 hpattern
    obtain ⟨hfresh, hdistinct⟩ := List.nodup_cons.1 hdistinct
    cases args with
    | nil => cases hlength
    | cons arg args =>
      have htail : pattern.map (substitute (bindAll (parameter :: pattern) (arg :: args))) =
          pattern.map (substitute (bindAll pattern args)) := by
        refine List.map_congr_left fun other hother => ?_
        rw [bindAll_cons hkind]
        refine substitute_cons_of_ne (hrest other hother) (fun hsame => hfresh ?_) _ _
        exact List.mem_map.2 ⟨other, hother, hsame⟩
      have hhead :
          (parameter.substitute (bindAll (parameter :: pattern) (arg :: args))).unannotated =
            arg.unannotated := by
        obtain ⟨kind, name, args', nullable⟩ := parameter
        subst hkind
        rw [bindAll_cons rfl, substitute_bound List.lookup_cons_self, unannotated_annotated]
      rw [List.map_cons, List.map_cons, List.map_cons, htail, hhead,
        ih hrest hdistinct (Nat.succ.inj hlength)]

theorem construct_substitute {type : TypeExpr} (h : type.kind ≠ .parameter) (args : List TypeExpr)
    (σ : Bindings) :
    (type.construct args).substitute σ = type.construct (args.map (substitute σ)) :=
  substitute_of_ne h σ type.name args false

theorem same_construct (type : TypeExpr) {args others : List TypeExpr}
    (h : args.map unannotated = others.map unannotated) :
    (type.construct args).same (type.construct others) := by
  rw [same_iff]
  simp only [construct, unannotated, unannotatedAll_eq_map, h]

theorem construct_args_same (type : TypeExpr) : (type.construct type.args).same type := by
  obtain ⟨kind, name, args, nullable⟩ := type
  exact same_iff.2 rfl

end TypeExpr
end Wiring
