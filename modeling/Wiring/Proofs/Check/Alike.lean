import Wiring.Proofs.Catalog.Annotation
import Wiring.Proofs.Check.Growth

/-!
Containers that differ in annotations only. They look up the same numbers for types that are the
same, and registering what differs in annotations only leaves them so, as long as the program
answers alike.
-/

namespace Wiring

open TypeExpr

/-- The service with every annotation cleared. -/
def Service.unannotated (service : Service) : Service :=
  { service with
    type := service.type.unannotated
    implementation := service.implementation.map (·.unannotated)
    member := service.member.map (·.unannotated) }

def Registration.unannotated (registration : Registration) : Registration :=
  { registration with toService := registration.toService.unannotated }

namespace Service

variable {first second : Service}

theorem type_same (h : first.unannotated = second.unannotated) : first.type.same second.type :=
  same_iff.2 (congrArg Service.type h)

theorem implementation_alike (h : first.unannotated = second.unannotated) :
    first.implementation.map (·.unannotated) = second.implementation.map (·.unannotated) :=
  congrArg Service.implementation h

theorem member_alike (h : first.unannotated = second.unannotated) :
    first.member.map (·.unannotated) = second.member.map (·.unannotated) :=
  congrArg Service.member h

theorem lifetime_eq (h : first.unannotated = second.unannotated) :
    first.lifetime = second.lifetime := by
  have hlifetime := congrArg Service.lifetime h
  exact hlifetime

theorem key_eq (h : first.unannotated = second.unannotated) : first.key = second.key := by
  have hkey := congrArg Service.key h
  exact hkey

theorem collected_eq (h : first.unannotated = second.unannotated) :
    first.collected = second.collected := by
  have hcollected := congrArg Service.collected h
  exact hcollected

theorem resolvedType_unannotated (service : Service) :
    service.unannotated.resolvedType = service.resolvedType.unannotated := by
  unfold resolvedType unannotated
  cases service.implementation <;> rfl

theorem resolvedType_same (h : first.unannotated = second.unannotated) :
    first.resolvedType.same second.resolvedType := by
  rw [same_iff, ← resolvedType_unannotated, h, resolvedType_unannotated]

end Service

theorem bearsName_congr {ctx : Context} (hprogram : ctx.program.IgnoresAnnotations) (name : String)
    {a b : TypeExpr} (h : a.same b) :
    Container.bearsName ctx name a = Container.bearsName ctx name b := by
  have hname (type : TypeExpr) : type.unannotated.name = type.name :=
    (name_eq_of_same (same_unannotated type)).symm
  have hany (types : List TypeExpr) :
      types.any (·.name == name) = (types.map unannotated).any (·.name == name) := by
    rw [List.any_map]
    simp only [Function.comp_def, hname]
  unfold Container.bearsName
  rw [name_eq_of_same h, hany, hprogram.baseTypes h, ← hany]

namespace Container

/-- The four shapes of the collection of `ids`, as they are registered. -/
def shapesOver (ctx : Context) (element : TypeExpr) (ids : List RegistrationId) : List Service :=
  let array := TypeExpr.arrayOf element
  [{ type := array, lifetime := .transient },
    { type := ctx.settings.readOnlyListOf element, lifetime := .transient,
      implementation := some array },
    { type := ctx.settings.readOnlyCollectionOf element, lifetime := .transient,
      implementation := some array },
    { type := ctx.settings.enumerableOf element, lifetime := .transient,
      implementation := some array, collected := some ids }]

theorem shapesOver_alike (ctx : Context) {element other : TypeExpr} (h : element.same other)
    (ids : List RegistrationId) :
    (shapesOver ctx element ids).map (·.unannotated) =
      (shapesOver ctx other ids).map (·.unannotated) := by
  have hshape (kind : TypeKind) (name : String) :
      unannotated ⟨kind, name, [element], false⟩ = unannotated ⟨kind, name, [other], false⟩ := by
    simp only [unannotated, unannotatedAll, same_iff.1 h]
  simp [shapesOver, Service.unannotated, TypeExpr.arrayOf, Settings.readOnlyListOf,
    Settings.readOnlyCollectionOf, Settings.enumerableOf, hshape]

theorem servedBases_alike {ctx : Context} (hprogram : ctx.program.IgnoresAnnotations)
    {a b : TypeExpr} (h : a.same b) :
    (servedBases ctx a).map unannotated = (servedBases ctx b).map unannotated := by
  have hserved (closed : TypeExpr) : (servedBases ctx closed).map unannotated =
      ((ctx.program.baseTypes closed).map unannotated).filter fun base =>
        !(ctx.settings.ignoresBase base || base.same closed) := by
    rw [List.filter_map]
    refine congrArg (List.map unannotated) (List.filter_congr fun base _ => ?_)
    have hbase := same_unannotated base
    simp only [Function.comp_def, Settings.ignoresBase, name_eq_of_same hbase,
      congr_same hbase closed]
  rw [hserved, hserved, hprogram.baseTypes h]
  simp only [fun base : TypeExpr => same_congr base h]

theorem closedOver_alike {target other : TypeExpr} (htarget : target.same other)
    {source source' : Registration}
    (hsource : source.toService.unannotated = source'.toService.unannotated) :
    (closedOver target source).unannotated = (closedOver other source').unannotated := by
  have hresolved : source.resolvedType.same source'.resolvedType :=
    Service.resolvedType_same hsource
  have htype := same_iff.1 (construct_congr hresolved (args_of_same htarget))
  have hbindings := bindings_same hresolved htarget
  have hmember : source.member.map (·.unannotated) = source'.member.map (·.unannotated) :=
    Service.member_alike hsource
  have hsubstituted := congrArg
    (Option.map (·.substitute ((source.resolvedType.bindings target).mapTypes unannotated))) hmember
  have hlifetime : source.lifetime = source'.lifetime := Service.lifetime_eq hsource
  have hkey : source.key = source'.key := Service.key_eq hsource
  simp only [Option.map_map, Function.comp_def] at hsubstituted
  unfold closedOver Service.unannotated
  simp only [Option.map_map, Function.comp_def, Member.unannotated_substitute, htype, hlifetime,
    hkey, hsubstituted, ← hbindings, Option.map_none]

theorem aliasOf_alike {target other closed closed' : TypeExpr} (htarget : target.same other)
    (hclosed : closed.same closed') {source source' : Registration}
    (hsource : source.toService.unannotated = source'.toService.unannotated) :
    (aliasOf target closed source).unannotated = (aliasOf other closed' source').unannotated := by
  have hlifetime : source.lifetime = source'.lifetime := Service.lifetime_eq hsource
  have hkey : source.key = source'.key := Service.key_eq hsource
  unfold aliasOf Service.unannotated
  simp only [Option.map_some, same_iff.1 htarget, same_iff.1 hclosed, hlifetime, hkey,
    Option.map_none]

/-- The containers differ in annotations, and in what they stored and noted, only. -/
structure Alike (a b : Container) : Prop where
  registrations : a.registrations.map (·.unannotated) = b.registrations.map (·.unannotated)
  servicesFor (type : TypeExpr) : a.servicesFor type = b.servicesFor type
  families (type : TypeExpr) : a.families.get? type = b.families.get? type
  specializationDepth : a.specializationDepth = b.specializationDepth

namespace Alike

variable {ctx : Context} {a b : Container}

theorem refl (c : Container) : c.Alike c := ⟨rfl, fun _ => rfl, fun _ => rfl, rfl⟩

/-! What a check looks up. -/

theorem registration?_cases (h : a.Alike b) (id : RegistrationId) :
    (a.registration? id = none ∧ b.registration? id = none) ∨
      ∃ r r', a.registration? id = some r ∧ b.registration? id = some r' ∧
        r.toService.unannotated = r'.toService.unannotated := by
  have hid : (a.registration? id).map (·.unannotated) =
      (b.registration? id).map (·.unannotated) := by
    unfold registration?
    rw [← List.getElem?_map, ← List.getElem?_map, h.registrations]
  cases ha : a.registration? id <;> cases hb : b.registration? id <;>
    simp only [ha, hb, Option.map_none, Option.map_some, reduceCtorEq] at hid
  · exact Or.inl ⟨rfl, rfl⟩
  · exact Or.inr ⟨_, _, rfl, rfl, congrArg Registration.toService (Option.some.inj hid)⟩

theorem size_eq (h : a.Alike b) : a.size = b.size := by
  simpa [size] using congrArg List.length h.registrations

theorem servicesFor_same (h : a.Alike b) {type other : TypeExpr} (hsame : type.same other) :
    a.servicesFor type = b.servicesFor other := by
  rw [h.servicesFor]
  unfold Container.servicesFor
  rw [TypeMap.get?_congr b.byType hsame]

theorem families_same (h : a.Alike b) {type other : TypeExpr} (hsame : type.same other) :
    a.families.get? type = b.families.get? other := by
  rw [h.families, TypeMap.get?_congr b.families hsame]

theorem isClosed (h : a.Alike b) (id : RegistrationId) : a.isClosed id = b.isClosed id := by
  unfold Container.isClosed
  rcases h.registration?_cases id with ⟨ha, hb⟩ | ⟨r, r', ha, hb, hr⟩
  · rw [ha, hb]
  · rw [ha, hb]
    exact TypeExpr.isClosed_congr (Service.resolvedType_same hr)

theorem underKey (h : a.Alike b) (key : Option String) (ids : List RegistrationId) :
    a.underKey key ids = b.underKey key ids := by
  refine List.filter_congr fun id _ => ?_
  rcases h.registration?_cases id with ⟨ha, hb⟩ | ⟨r, r', ha, hb, hr⟩
  · rw [ha, hb]
  · have hkey : r.key = r'.key := Service.key_eq hr
    rw [ha, hb]
    dsimp only
    rw [hkey]

theorem isEmptyCollection (h : a.Alike b) (id : RegistrationId) :
    a.isEmptyCollection id = b.isEmptyCollection id := by
  unfold Container.isEmptyCollection
  rcases h.registration?_cases id with ⟨ha, hb⟩ | ⟨r, r', ha, hb, hr⟩
  · rw [ha, hb]
  · have hcollected : r.collected = r'.collected := Service.collected_eq hr
    rw [ha, hb]
    dsimp only [Registration.isEmptyCollection]
    rw [hcollected]

theorem familyOf? (h : a.Alike b) (id : RegistrationId) :
    a.familyOf? ctx id = b.familyOf? ctx id := by
  unfold Container.familyOf?
  rcases h.registration?_cases id with ⟨ha, hb⟩ | ⟨r, r', ha, hb, hr⟩
  · rw [ha, hb]
    rfl
  · have hsame : r.type.same r'.type := Service.type_same hr
    have helement := ctx.settings.collectionElement?_congr hsame
    rw [ha, hb]
    simp only [Option.bind_eq_bind, Option.bind_some]
    cases hx : ctx.settings.collectionElement? r.type <;>
      cases hy : ctx.settings.collectionElement? r'.type <;>
      simp only [hx, hy, Option.map_none, Option.map_some, reduceCtorEq] at helement
    · rfl
    · simp only [Option.bind_some, h.families_same (same_iff.2 (Option.some.inj helement))]

theorem follow (h : a.Alike b) (id : RegistrationId) : a.follow ctx id = b.follow ctx id := by
  unfold Container.follow
  rw [h.familyOf?]
  split
  · rfl
  rcases h.registration?_cases id with ⟨ha, hb⟩ | ⟨r, r', ha, hb, hr⟩
  · rw [ha, hb]
  · have htype : r.type.same r'.type := Service.type_same hr
    have hkey : r.key = r'.key := Service.key_eq hr
    have himplementation : r.implementation.map unannotated = r'.implementation.map unannotated :=
      Service.implementation_alike hr
    rw [ha, hb]
    dsimp only
    cases hx : r.implementation <;> cases hy : r'.implementation <;>
      simp only [hx, hy, Option.map_none, Option.map_some, reduceCtorEq] at himplementation
    · rfl
    · next x y =>
      have hxy : x.same y := same_iff.2 (Option.some.inj himplementation)
      dsimp only
      rw [same_congr x htype, congr_same hxy, h.servicesFor_same hxy, h.underKey, hkey]

theorem members (h : a.Alike b) {element other : TypeExpr} (hsame : element.same other) :
    a.members ctx element = b.members ctx other := by
  unfold Container.members
  rw [h.servicesFor_same hsame, funext h.isClosed, funext h.follow]

theorem selectAmong (h : a.Alike b) (key : Option String) (requireNonEmpty : Bool)
    (ids : List RegistrationId) :
    a.selectAmong ctx key requireNonEmpty ids = b.selectAmong ctx key requireNonEmpty ids := by
  unfold Container.selectAmong
  simp only [h.underKey, h.follow, h.isEmptyCollection]

/-! What a check changes. -/

theorem note (h : a.Alike b) (first second : Event) : (a.note first).Alike (b.note second) :=
  ⟨h.registrations, h.servicesFor, h.families, h.specializationDepth⟩

theorem withDepth (h : a.Alike b) {depth depth' : Nat} (hdepth : depth = depth') :
    Alike { a with specializationDepth := depth } { b with specializationDepth := depth' } :=
  ⟨h.registrations, h.servicesFor, h.families, hdepth⟩

theorem store (h : a.Alike b) (first second : Resolution) :
    (a.store first).Alike (b.store second) := by
  unfold Container.store
  split <;> split <;>
    exact ⟨h.registrations, h.servicesFor, h.families, h.specializationDepth⟩

theorem enlist (h : a.Alike b) {element other : TypeExpr} (hsame : element.same other)
    (id : RegistrationId) : (a.enlist element id).Alike (b.enlist other id) := by
  have hcollect (c : Container) (i : Nat) :
      (c.registrations.modify i (·.collect id)).map (·.unannotated) =
        (c.registrations.map (·.unannotated)).modify i (·.collect id) := by
    refine List.ext_getElem? fun j => ?_
    rw [List.getElem?_map, List.getElem?_modify, List.getElem?_modify, List.getElem?_map]
    cases c.registrations[j]? with
    | none => rfl
    | some r =>
      by_cases hij : i = j
      · simp only [hij, if_true, Option.map_eq_map, Option.map_some]
        rfl
      · simp only [hij, if_false, Option.map_eq_map, Option.map_some]
  unfold Container.enlist
  rw [h.families_same hsame]
  split
  · refine ⟨?_, h.servicesFor, h.families, h.specializationDepth⟩
    rw [hcollect a, hcollect b, h.registrations]
  · exact h

section Program

variable (hprogram : ctx.program.IgnoresAnnotations)
include hprogram

theorem add (h : a.Alike b) {first second : Service}
    (hservice : first.unannotated = second.unannotated) :
    (a.add ctx first).Alike (b.add ctx second) where
  registrations := by
    have htype := Service.type_same hservice
    have hresolved := Service.resolvedType_same hservice
    have hnew : (a.registrationOf ctx first).unannotated =
        (b.registrationOf ctx second).unannotated := by
      unfold registrationOf Registration.unannotated
      dsimp only
      rw [hservice, h.size_eq, h.servicesFor_same htype, funext h.isClosed,
        bearsName_congr hprogram _ hresolved, bearsName_congr hprogram _ hresolved]
    rw [registrations_add, registrations_add, List.map_append, List.map_append, h.registrations,
      List.map_singleton, List.map_singleton, hnew]
  servicesFor type := by
    rw [servicesFor_add, servicesFor_add, congr_same (Service.type_same hservice), h.servicesFor,
      h.size_eq]
  families := h.families
  specializationDepth := h.specializationDepth

theorem addAll (h : a.Alike b) {firsts seconds : List Service}
    (hservices : firsts.map (·.unannotated) = seconds.map (·.unannotated)) :
    (a.addAll ctx firsts).Alike (b.addAll ctx seconds) := by
  induction firsts generalizing seconds a b with
  | nil =>
    obtain rfl : seconds = [] := by simpa using hservices.symm
    exact h
  | cons first firsts ih =>
    obtain ⟨second, rest, rfl, hservice, hrest⟩ := List.map_eq_cons_iff.1 hservices.symm
    exact ih (h.add hprogram hservice.symm) hrest.symm

theorem addFamily (h : a.Alike b) {element other : TypeExpr} (hsame : element.same other)
    (ids : List RegistrationId) :
    (a.addFamily ctx element ids).Alike (b.addFamily ctx other ids) := by
  have hadded := h.addAll hprogram (shapesOver_alike ctx hsame ids)
  refine ⟨hadded.registrations, hadded.servicesFor, fun type => ?_, hadded.specializationDepth⟩
  rw [addFamily_families, addFamily_families, TypeMap.get?_insert, TypeMap.get?_insert,
    congr_same hsame, h.families, h.size_eq]

theorem addBases (h : a.Alike b) {first second : Service}
    (hservice : first.unannotated = second.unannotated) {bases others : List TypeExpr}
    (hbases : bases.map unannotated = others.map unannotated) (id : RegistrationId) :
    (bases.foldl (addBase ctx first first.type id) a).Alike
      (others.foldl (addBase ctx second second.type id) b) := by
  induction bases generalizing others a b with
  | nil =>
    obtain rfl : others = [] := by simpa using hbases.symm
    exact h
  | cons base bases ih =>
    obtain ⟨other, rest, rfl, hbase, hrest⟩ := List.map_eq_cons_iff.1 hbases.symm
    have hmirror : (mirrorOf first first.type base).unannotated =
        (mirrorOf second second.type other).unannotated := by
      unfold mirrorOf Service.unannotated
      simp only [Option.map_some, hbase, same_iff.1 (Service.type_same hservice),
        Service.lifetime_eq hservice, Service.key_eq hservice, Service.collected_eq hservice,
        Service.member_alike hservice]
    exact ih ((h.add hprogram hmirror).enlist (same_iff.2 hbase.symm) id) hrest.symm

theorem addSpecialization (h : a.Alike b) {first second : Service}
    (hservice : first.unannotated = second.unannotated) :
    (a.addSpecialization ctx first).Alike (b.addSpecialization ctx second) := by
  have htype := Service.type_same hservice
  unfold Container.addSpecialization
  rw [h.size_eq]
  refine Alike.enlist (addBases hprogram ?_ hservice ?_ _) htype _
  · exact (h.add hprogram hservice).note _ _
  · exact servedBases_alike hprogram htype

theorem entered (h : a.Alike b) {target other : TypeExpr} (hsame : target.same other)
    {source source' : Registration}
    (hsource : source.toService.unannotated = source'.toService.unannotated) :
    (a.entered ctx target source).Alike (b.entered ctx other source') := by
  have hadded := h.addSpecialization hprogram (closedOver_alike hsame hsource)
  exact hadded.withDepth (congrArg (· + 1) hadded.specializationDepth)

end Program

theorem left (h : a.Alike b) : a.left.Alike b.left :=
  h.withDepth (congrArg (· - 1) h.specializationDepth)

end Alike
end Container
end Wiring
