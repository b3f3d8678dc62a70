import Wiring.Proofs.Catalog.Walk
import Wiring.Proofs.TypeExpr.Annotation

/-!
Programs and annotations. What a catalog answers for two types that are the same differs in
annotations only: it looks up one definition for both, and substitution respects identity.
-/

namespace Wiring

open TypeExpr

/-! Parameters and members without the annotations of their types. -/

def Parameter.unannotated (parameter : Parameter) : Parameter :=
  { parameter with type := parameter.type.unannotated }

def Method.unannotated (method : Method) : Method :=
  { method with
    parameters := method.parameters.map (·.unannotated)
    returns := method.returns.map (·.unannotated) }

def Member.unannotated : Member → Member
  | method m => method m.unannotated
  | property name type => property name type.unannotated
  | field name type => field name type.unannotated

theorem Parameter.unannotated_substitute (σ : Bindings) (parameter : Parameter) :
    (parameter.substitute σ).unannotated =
      parameter.unannotated.substitute (σ.mapTypes TypeExpr.unannotated) := by
  unfold Parameter.substitute Parameter.unannotated
  rw [TypeExpr.unannotated_substitute]

theorem Method.unannotated_substitute (σ : Bindings) (method : Method) :
    (method.substitute σ).unannotated =
      method.unannotated.substitute (σ.mapTypes TypeExpr.unannotated) := by
  unfold Method.substitute Method.unannotated
  simp only [List.map_map, Option.map_map, Function.comp_def, Parameter.unannotated_substitute,
    TypeExpr.unannotated_substitute]

theorem Member.unannotated_substitute (σ : Bindings) (member : Member) :
    (member.substitute σ).unannotated =
      member.unannotated.substitute (σ.mapTypes TypeExpr.unannotated) := by
  cases member with
  | method m => exact congrArg Member.method (Method.unannotated_substitute σ m)
  | property name type =>
    exact congrArg (Member.property name) (TypeExpr.unannotated_substitute σ type)
  | field name type => exact congrArg (Member.field name) (TypeExpr.unannotated_substitute σ type)

theorem Member.produces_unannotated (member : Member) :
    member.unannotated.produces = member.produces.map (·.unannotated) := by
  cases member <;> rfl

theorem Member.parameters_unannotated (member : Member) :
    member.unannotated.parameters = member.parameters.map (·.unannotated) := by
  cases member <;> rfl

/-- For types that are the same the program answers the same, up to annotations. -/
structure Program.IgnoresAnnotations (program : Program) : Prop where
  genericDefinition {a b : TypeExpr} :
    a.same b → program.genericDefinition a = program.genericDefinition b
  baseTypes {a b : TypeExpr} : a.same b →
    (program.baseTypes a).map unannotated = (program.baseTypes b).map unannotated
  constructors {a b : TypeExpr} : a.same b →
    (program.constructors a).map (·.unannotated) = (program.constructors b).map (·.unannotated)

namespace Catalog

variable {catalog : Catalog} {a b : TypeExpr}

theorem genericDefinition_congr (h : a.same b) :
    catalog.genericDefinition a = catalog.genericDefinition b := by
  unfold genericDefinition
  rw [isGeneric_congr h, definition?_congr h, length_args_of_same h]

theorem constructors_congr (h : a.same b) :
    (catalog.constructors a).map (·.unannotated) =
      (catalog.constructors b).map (·.unannotated) := by
  unfold constructors
  rw [definition?_congr h, kind_eq_of_same h]
  split
  · rfl
  next d _ =>
  split
  · rfl
  · simp only [List.map_map, Function.comp_def, Method.unannotated_substitute,
      bindings_congr d.type h]

theorem members_congr (h : a.same b) (name : String) :
    (catalog.members a name).map (·.unannotated) =
      (catalog.members b name).map (·.unannotated) := by
  unfold members
  rw [definition?_congr h]
  split
  · rfl
  · next d _ =>
    simp only [List.map_map, Function.comp_def, Member.unannotated_substitute,
      bindings_congr d.type h]

theorem map_unannotated_directBases (h : a.same b) :
    (catalog.directBases a).map unannotated = (catalog.directBases b).map unannotated := by
  unfold directBases
  rw [definition?_congr h]
  split
  · next d _ =>
    simp only [List.map_map, Function.comp_def, unannotated_substitute, bindings_congr d.type h]
  · rfl

/-- The walk goes the same way for types that are the same. -/
theorem addBases_congr (depth : Nat) {found others : List TypeExpr}
    (hfound : found.map unannotated = others.map unannotated) (h : a.same b) :
    (catalog.addBases depth found a).map (·.map unannotated) =
      (catalog.addBases depth others b).map (·.map unannotated) := by
  induction depth generalizing found others a b with
  | zero => rfl
  | succ depth ih =>
    have hbases : (catalog.directBases a).map unannotated =
        (catalog.directBases b).map unannotated := map_unannotated_directBases h
    unfold addBases
    generalize catalog.directBases a = bases at hbases ⊢
    generalize catalog.directBases b = bases' at hbases ⊢
    induction bases generalizing bases' found others with
    | nil =>
      obtain rfl : bases' = [] := by simpa using hbases.symm
      exact congrArg some hfound
    | cons base bases ihBases =>
      obtain ⟨base', rest, rfl, hbase, hrest⟩ := List.map_eq_cons_iff.1 hbases.symm
      have hsame : base.same base' := same_iff.2 hbase.symm
      rw [List.foldlM_cons, List.foldlM_cons, isNew_congr hfound hsame]
      split
      · have hlonger : (found ++ [base]).map unannotated = (others ++ [base']).map unannotated := by
          rw [List.map_append, List.map_append, hfound, List.map_singleton, List.map_singleton,
            hbase]
        have hwalk := ih hlonger hsame
        cases hfirst : catalog.addBases depth (found ++ [base]) base <;>
          cases hsecond : catalog.addBases depth (others ++ [base']) base' <;>
          simp only [hfirst, hsecond, Option.map_none, Option.map_some, reduceCtorEq] at hwalk
        · rfl
        · exact ihBases (Option.some.inj hwalk) rest hrest.symm
      · exact ihBases hfound rest hrest.symm

theorem baseTypes?_congr (depth : Nat) (h : a.same b) :
    (catalog.baseTypes? depth a).map (·.map unannotated) =
      (catalog.baseTypes? depth b).map (·.map unannotated) := by
  have hstart : [a].map unannotated = [b].map unannotated :=
    congrArg (fun type => [type]) (same_iff.1 h)
  have hwalk : (catalog.addBases depth [a] a).map (·.map unannotated) =
      (catalog.addBases depth [b] b).map (·.map unannotated) := addBases_congr depth hstart h
  have hrest := congrArg (Option.map (List.drop 1)) hwalk
  simpa only [baseTypes?, Option.map_map, Function.comp_def, List.map_drop] using hrest

theorem program_ignoresAnnotations (catalog : Catalog) :
    catalog.program.IgnoresAnnotations where
  genericDefinition := genericDefinition_congr
  constructors := constructors_congr
  baseTypes {a b} h := by
    have hbases : (catalog.baseTypes? walkDepth a).map (·.map unannotated) =
        (catalog.baseTypes? walkDepth b).map (·.map unannotated) := baseTypes?_congr walkDepth h
    change ((catalog.baseTypes? walkDepth a).getD []).map unannotated =
      ((catalog.baseTypes? walkDepth b).getD []).map unannotated
    rw [← Option.getD_map (List.map unannotated), hbases, Option.getD_map]

end Catalog
end Wiring
