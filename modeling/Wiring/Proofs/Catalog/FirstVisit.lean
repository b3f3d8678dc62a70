import Wiring.Proofs.Catalog.Ending

/-!
In which order the bases of a type are listed. Going down from base to base, each way on its own and
only never in a circle, meets every ancestor, most of them more than once; what is met first stands
first in the list, and nothing stands in it twice. The walk passes over what it found before, which
is more than what lies on its way, but below that there is nothing left that it did not find.
-/

namespace Wiring

namespace TypeExpr

/-- Those types that neither `seen` nor the list before them has. -/
def firsts (seen : List TypeExpr) : List TypeExpr → List TypeExpr
  | [] => []
  | type :: types =>
    if isNew seen type then type :: firsts (seen ++ [type]) types else firsts seen types

theorem isNew_iff_not_mem {seen : List TypeExpr} {type : TypeExpr} :
    isNew seen type ↔ type.unannotated ∉ seen.map unannotated := by
  rw [isNew_iff, List.mem_map]
  constructor
  · rintro h ⟨other, hother, hsame⟩
    exact h other hother (same_iff.2 hsame.symm)
  · intro h other hother hsame
    exact h ⟨other, hother, (same_iff.1 hsame).symm⟩

theorem firsts_cons (seen : List TypeExpr) (type : TypeExpr) (types : List TypeExpr) :
    firsts seen (type :: types) =
      if isNew seen type then type :: firsts (seen ++ [type]) types else firsts seen types := rfl

theorem firsts_append (seen types more : List TypeExpr) :
    firsts seen (types ++ more) = firsts seen types ++ firsts (seen ++ firsts seen types) more := by
  induction types generalizing seen with
  | nil => simp [firsts]
  | cons type types ih =>
    rw [List.cons_append, firsts_cons, firsts_cons]
    split
    · rw [ih, List.cons_append, List.append_assoc, List.singleton_append]
    · exact ih seen

theorem firsts_eq_nil {seen types : List TypeExpr} (h : ∀ type ∈ types, ¬ isNew seen type) :
    firsts seen types = [] := by
  induction types with
  | nil => rfl
  | cons type types ih =>
    obtain ⟨htype, hrest⟩ := List.forall_mem_cons.1 h
    rw [firsts_cons, if_neg htype, ih hrest]

theorem nodup_firsts {seen : List TypeExpr} (types : List TypeExpr)
    (h : (seen.map unannotated).Nodup) :
    ((seen ++ firsts seen types).map unannotated).Nodup := by
  induction types generalizing seen with
  | nil => simpa [firsts] using h
  | cons type types ih =>
    rw [firsts_cons]
    split
    · next hnew =>
      have hlonger : ((seen ++ [type]).map unannotated).Nodup := by
        rw [List.map_append, List.nodup_append_comm]
        exact List.nodup_cons.2 ⟨isNew_iff_not_mem.1 hnew, h⟩
      simpa using ih hlonger
    · exact ih h

end TypeExpr

namespace Catalog

variable {catalog : Catalog} {type : TypeExpr}

/-- What the ways down from a type come to: its bases in order, and behind each of them what comes
below it. A way stops where it would meet a type again that is on it, or after `length` steps;
nothing is carried over from one way to the next. -/
def descents (catalog : Catalog) : Nat → List TypeExpr → TypeExpr → List TypeExpr
  | 0, _, _ => []
  | length + 1, way, type =>
    (catalog.directBases type).flatMap fun base =>
      if TypeExpr.isNew way base then base :: descents catalog length (way ++ [base]) base else []

/-- With enough steps left for all keys that are not on the way, no way is cut short. -/
theorem descents_eq {keys : Finset TypeExpr} {way : List TypeExpr} {length : Nat}
    (hkeys : ∀ base, catalog.Ancestor type base → base.unannotated ∈ keys)
    (hlength : (unseen keys way).card ≤ length) :
    catalog.descents length way type = (catalog.directBases type).flatMap fun base =>
      if TypeExpr.isNew way base then base :: catalog.descents (length - 1) (way ++ [base]) base
      else [] := by
  cases length with
  | zero =>
    refine (List.flatMap_eq_nil_iff.2 fun base hbase => if_neg fun hnew => ?_).symm
    have hless := card_unseen_enter hnew (hkeys base (.direct hbase))
    omega
  | succ length => rfl

theorem Covers.congr {found : List TypeExpr} {a b : TypeExpr} (h : a.same b)
    (hcovers : catalog.Covers found a) : catalog.Covers found b := by
  intro base hbase
  rw [TypeExpr.same_comm] at h
  obtain ⟨other, hother, hsame⟩ := directBases_congr h hbase
  obtain ⟨listed, hlisted, hsame'⟩ := hcovers other hother
  exact ⟨listed, hlisted, TypeExpr.same_trans hsame' hsame⟩

/-- Whatever was found is on the way, or has all its bases found too. -/
def Settled (catalog : Catalog) (way found : List TypeExpr) : Prop :=
  ∀ type ∈ found, TypeExpr.isNew way type → catalog.Covers found type

theorem Settled.covers {way found : List TypeExpr} (h : catalog.Settled way found)
    (hway : TypeExpr.isNew way type) (hfound : ¬ TypeExpr.isNew found type) :
    catalog.Covers found type := by
  obtain ⟨other, hother, hsame⟩ := TypeExpr.not_isNew_iff.1 hfound
  rw [TypeExpr.same_comm] at hsame
  exact (h other hother (TypeExpr.isNew_of_same hsame hway)).congr hsame

/-- Below what is settled there is nothing new. -/
theorem Settled.descents {way found : List TypeExpr} (h : catalog.Settled way found)
    (hcovers : catalog.Covers found type) (length : Nat) (more : List TypeExpr) :
    ∀ other ∈ catalog.descents length (way ++ more) type, ¬ TypeExpr.isNew found other := by
  induction length generalizing type more with
  | zero => exact fun other hother => absurd hother List.not_mem_nil
  | succ length ih =>
    intro other hother
    obtain ⟨base, hbase, hbelow⟩ := List.mem_flatMap.1 hother
    split at hbelow
    · next hnew =>
      obtain ⟨listed, hlisted, hsame⟩ := hcovers base hbase
      rw [TypeExpr.same_comm] at hsame
      have hfound : ¬ TypeExpr.isNew found base :=
        TypeExpr.not_isNew_iff.2 ⟨listed, hlisted, hsame⟩
      rcases List.mem_cons.1 hbelow with rfl | hbelow
      · exact hfound
      · have hway := TypeExpr.isNew_of_subset (List.subset_append_left way more) hnew
        rw [List.append_assoc] at hbelow
        exact ih (h.covers hway hfound) (more ++ [base]) other hbelow
    · cases hbelow

theorem Settled.enter {way found : List TypeExpr} (h : catalog.Settled way found)
    (base : TypeExpr) : catalog.Settled (way ++ [base]) (found ++ [base]) := by
  intro other hother hnew
  rcases List.mem_append.1 hother with hold | hlast
  · exact (h other hold
      (TypeExpr.isNew_of_subset (List.subset_append_left way [base]) hnew)).append [base]
  · obtain rfl := List.mem_singleton.1 hlast
    exact absurd hnew
      (TypeExpr.not_isNew_of_mem (List.mem_append_right way (List.mem_singleton_self other)))

/-- When the walk comes back from a base, the base and all below it are settled. -/
theorem Settled.leave {way found found' : List TypeExpr} (h : catalog.Settled way found)
    {depth : Nat} {base : TypeExpr}
    (hwalk : catalog.addBases depth (found ++ [base]) base = some found') :
    catalog.Settled way found' := by
  obtain ⟨⟨new, rfl, hnew⟩, hcovers⟩ := walks_of_addBases hwalk
  intro other hother hway
  rcases List.mem_append.1 hother with hbefore | hafter
  · rcases List.mem_append.1 hbefore with hold | hlast
    · rw [List.append_assoc]
      exact (h other hold hway).append _
    · obtain rfl := List.mem_singleton.1 hlast
      exact hcovers
  · exact (hnew other hafter).2

/-- One base after another, where each base that is new adds the first of what comes `below` it, and
one that is not has nothing new there. -/
theorem foldlM_eq_firsts {way : List TypeExpr} {depth : Nat} {below : TypeExpr → List TypeExpr}
    (henter : ∀ {found found' : List TypeExpr} {base : TypeExpr}, base ∈ catalog.directBases type →
      way ⊆ found → catalog.Settled way found → TypeExpr.isNew found base →
      catalog.addBases depth (found ++ [base]) base = some found' →
      found' = found ++ TypeExpr.firsts found (below base))
    (hpass : ∀ {found : List TypeExpr} {base : TypeExpr}, catalog.Settled way found →
      ¬ TypeExpr.isNew found base → ∀ other ∈ below base, ¬ TypeExpr.isNew found other)
    {bases : List TypeExpr} (hbases : bases ⊆ catalog.directBases type)
    {found found' : List TypeExpr} (hway : way ⊆ found) (hsettled : catalog.Settled way found)
    (h : bases.foldlM (fun found base =>
      if TypeExpr.isNew found base then catalog.addBases depth (found ++ [base]) base
      else some found) found = some found') :
    found' = found ++ TypeExpr.firsts found (bases.flatMap below) := by
  induction bases generalizing found with
  | nil =>
    cases h
    exact (List.append_nil _).symm
  | cons base bases ih =>
    obtain ⟨hbase, hbases⟩ := List.cons_subset.1 hbases
    rw [List.foldlM_cons] at h
    obtain ⟨middle, hmiddle, hrest⟩ := Option.bind_eq_some_iff.1 h
    have hfirst : middle = found ++ TypeExpr.firsts found (below base) ∧
        catalog.Settled way middle := by
      split at hmiddle
      · next hnew =>
        exact ⟨henter hbase hway hsettled hnew hmiddle, hsettled.leave hmiddle⟩
      · next hold =>
        cases hmiddle
        rw [TypeExpr.firsts_eq_nil (hpass hsettled hold), List.append_nil]
        exact ⟨rfl, hsettled⟩
    obtain ⟨rfl, hsettled'⟩ := hfirst
    rw [ih hbases (List.subset_append_of_subset_left _ hway) hsettled' hrest, List.flatMap_cons,
      TypeExpr.firsts_append, List.append_assoc]

/-- The walk adds the first of each type that the ways down come to. -/
theorem addBases_eq_firsts {keys : Finset TypeExpr} {way found found' : List TypeExpr}
    {depth length : Nat} (hway : way ⊆ found) (hsettled : catalog.Settled way found)
    (hkeys : ∀ base, catalog.Ancestor type base → base.unannotated ∈ keys)
    (hlength : (unseen keys way).card ≤ length)
    (h : catalog.addBases depth found type = some found') :
    found' = found ++ TypeExpr.firsts found (catalog.descents length way type) := by
  induction depth generalizing type way found found' length with
  | zero => cases h
  | succ depth ih =>
    rw [descents_eq hkeys hlength]
    refine foldlM_eq_firsts ?_ ?_ (List.Subset.refl _) hway hsettled h
    · intro found found' base hbase hway hsettled hnew hwalk
      have hnewWay : TypeExpr.isNew way base := TypeExpr.isNew_of_subset hway hnew
      have hless := card_unseen_enter hnewWay (hkeys base (.direct hbase))
      have hbelow := ih (List.append_subset.2
        ⟨List.subset_append_of_subset_left _ hway, List.subset_append_right found [base]⟩)
        (hsettled.enter base)
        (fun other hother => hkeys other ((Ancestor.direct hbase).trans hother))
        (by omega : (unseen keys (way ++ [base])).card ≤ length - 1) hwalk
      rw [hbelow, if_pos hnewWay, TypeExpr.firsts_cons, if_pos hnew, List.append_assoc,
        List.singleton_append]
    · intro found base hsettled hold other hother
      split at hother
      · next hnewWay =>
        rcases List.mem_cons.1 hother with rfl | hother
        · exact hold
        · exact hsettled.descents (hsettled.covers hnewWay hold) _ _ other hother
      · cases hother

/-- No way down is longer than the list of bases, as it takes another of them at each step. -/
theorem baseTypes?_eq_firsts {depth : Nat} {bases : List TypeExpr}
    (h : catalog.baseTypes? depth type = some bases) {length : Nat}
    (hlength : bases.length ≤ length) :
    bases = TypeExpr.firsts [type] (catalog.descents length [type] type) := by
  have hlisted := (ancestors_of_baseTypes? h).2
  have hkeys : ∀ base, catalog.Ancestor type base →
      base.unannotated ∈ ((type :: bases).map TypeExpr.unannotated).toFinset := by
    intro base hbase
    obtain ⟨other, hother, hsame⟩ := hlisted base hbase
    rw [← TypeExpr.same_iff.1 hsame]
    exact List.mem_toFinset.2 (List.mem_map_of_mem hother)
  have hunseen : (unseen ((type :: bases).map TypeExpr.unannotated).toFinset [type]).card ≤
      length := by
    have hsubset : unseen ((type :: bases).map TypeExpr.unannotated).toFinset [type] ⊆
        (bases.map TypeExpr.unannotated).toFinset := by
      intro key hkey
      obtain ⟨hmem, hnew⟩ := Finset.mem_filter.1 hkey
      rw [List.map_cons, List.toFinset_cons, Finset.mem_insert] at hmem
      exact hmem.resolve_left fun heq => hnew (heq ▸ List.mem_singleton_self _)
    have hcard := Finset.card_le_card hsubset
    have hbound := List.toFinset_card_le (bases.map TypeExpr.unannotated)
    rw [List.length_map] at hbound
    omega
  have hstart : catalog.Settled [type] [type] := fun other hother hnew =>
    absurd hnew (TypeExpr.not_isNew_of_mem hother)
  obtain ⟨found, hfound, rfl⟩ := Option.map_eq_some_iff.1 h
  rw [addBases_eq_firsts (List.Subset.refl _) hstart hkeys hunseen hfound]
  rfl

/-- A walk that ends lists the same bases however deep it may go. -/
theorem baseTypes?_unique {depth depth' : Nat} {bases others : List TypeExpr}
    (h : catalog.baseTypes? depth type = some bases)
    (h' : catalog.baseTypes? depth' type = some others) : bases = others :=
  (baseTypes?_eq_firsts h (Nat.le_max_left bases.length others.length)).trans
    (baseTypes?_eq_firsts h' (Nat.le_max_right bases.length others.length)).symm

theorem nodup_baseTypes? {depth : Nat} {bases : List TypeExpr}
    (h : catalog.baseTypes? depth type = some bases) :
    ((type :: bases).map TypeExpr.unannotated).Nodup := by
  have hstart : ([type].map TypeExpr.unannotated).Nodup := List.nodup_singleton _
  rw [baseTypes?_eq_firsts h (Nat.le_refl _)]
  exact TypeExpr.nodup_firsts _ hstart

/-- The keys of the list are those of the ancestors, without that of the type. -/
theorem mem_keys_baseTypes? {depth : Nat} {bases : List TypeExpr}
    (h : catalog.baseTypes? depth type = some bases) (key : TypeExpr) :
    key ∈ bases.map TypeExpr.unannotated ↔
      key ∈ catalog.ancestorKeys type ∧ key ≠ type.unannotated := by
  obtain ⟨hancestors, hlisted⟩ := ancestors_of_baseTypes? h
  constructor
  · intro hkey
    refine ⟨?_, fun heq => (List.nodup_cons.1 (nodup_baseTypes? h)).1 (heq ▸ hkey)⟩
    obtain ⟨base, hbase, rfl⟩ := List.mem_map.1 hkey
    exact ⟨base, hancestors base hbase, rfl⟩
  · rintro ⟨⟨base, hbase, rfl⟩, hother⟩
    obtain ⟨other, hmem, hsame⟩ := hlisted base hbase
    rw [← TypeExpr.same_iff.1 hsame] at hother ⊢
    rcases List.mem_cons.1 hmem with rfl | hmem
    · exact absurd rfl hother
    · exact List.mem_map_of_mem hmem

theorem ancestorKeys_subset {base : TypeExpr} (h : catalog.Ancestor type base) :
    catalog.ancestorKeys base ⊆ catalog.ancestorKeys type := by
  rintro key ⟨further, hfurther, rfl⟩
  exact ⟨further, h.trans hfurther, rfl⟩

/-- Where the walk over the bases of a type ends, it lists the ancestors other than the type itself,
up to annotations and each once. They stand in the order in which the ways down from the type meet
them first. The bases of a base are bases of the type as well, or the type itself. -/
theorem baseTypes?_lists_ancestors {depth : Nat} {bases : List TypeExpr}
    (h : catalog.baseTypes? depth type = some bases) :
    (∀ key, key ∈ bases.map TypeExpr.unannotated ↔
      key ∈ catalog.ancestorKeys type ∧ key ≠ type.unannotated) ∧
    (bases.map TypeExpr.unannotated).Nodup ∧
    (∀ length, bases.length ≤ length →
      bases = TypeExpr.firsts [type] (catalog.descents length [type] type)) ∧
    ∀ base ∈ bases, catalog.WalkEnds base ∧
      ∀ depth' others, catalog.baseTypes? depth' base = some others →
        ∀ other ∈ others, other.same type ∨ ∃ member ∈ bases, other.same member := by
  refine ⟨mem_keys_baseTypes? h, (List.nodup_cons.1 (nodup_baseTypes? h)).2,
    fun length hlength => baseTypes?_eq_firsts h hlength, fun base hbase => ?_⟩
  obtain ⟨hancestors, hlisted⟩ := ancestors_of_baseTypes? h
  have hends : catalog.WalkEnds type := ⟨depth, Option.isSome_iff_exists.2 ⟨bases, h⟩⟩
  refine ⟨walkEnds_of_finite (hends.finite.subset (ancestorKeys_subset (hancestors base hbase))),
    fun depth' others hothers other hother => ?_⟩
  have hancestor := (hancestors base hbase).trans ((ancestors_of_baseTypes? hothers).1 other hother)
  obtain ⟨member, hmember, hsame⟩ := hlisted other hancestor
  rw [TypeExpr.same_comm] at hsame
  rcases List.mem_cons.1 hmember with rfl | hmember
  · exact Or.inl hsame
  · exact Or.inr ⟨member, hmember, hsame⟩

end Catalog

namespace Albums

def song : TypeExpr := ⟨.classType, "media::Song", [], false⟩
def content : TypeExpr := ⟨.parameter, "T", [], false⟩

def album (content : TypeExpr) : TypeExpr := ⟨.classType, "media::Album", [content], false⟩
def sequence (content : TypeExpr) : TypeExpr :=
  ⟨.interfaceType, "media::Sequence", [content], false⟩
def index (content : TypeExpr) : TypeExpr := ⟨.interfaceType, "media::Index", [content], false⟩
def source (content : TypeExpr) : TypeExpr := ⟨.interfaceType, "media::Source", [content], false⟩

/-- Albums are sequences and indexes, both of them sources; a sequence is an album as well. -/
def catalog : Catalog := .ofDefinitions [
  { Definition.declaring (album content) [] [] with bases := [sequence content, index content] },
  { Definition.declaring (sequence content) [] [] with
    bases := [source { content with nullable := true }, album content] },
  { Definition.declaring (index content) [] [] with bases := [source content] },
  Definition.declaring (source content) [] []]

end Albums

/-- The source is met below the sequence first, and keeps the annotation it has there. -/
theorem album_bases_listed :
    Albums.catalog.baseTypes? 3 (Albums.album Albums.song) =
      some [Albums.sequence Albums.song, Albums.source { Albums.song with nullable := true },
        Albums.index Albums.song] ∧
    Albums.catalog.descents 3 [Albums.album Albums.song] (Albums.album Albums.song) =
      [Albums.sequence Albums.song, Albums.source { Albums.song with nullable := true },
        Albums.index Albums.song, Albums.source Albums.song] ∧
    [Albums.sequence Albums.song, Albums.source { Albums.song with nullable := true },
        Albums.index Albums.song] =
      TypeExpr.firsts [Albums.album Albums.song]
        (Albums.catalog.descents 3 [Albums.album Albums.song] (Albums.album Albums.song)) := by
  have hbases : Albums.catalog.baseTypes? 3 (Albums.album Albums.song) =
      some [Albums.sequence Albums.song, Albums.source { Albums.song with nullable := true },
        Albums.index Albums.song] := by decide +kernel
  exact ⟨hbases, by decide +kernel,
    (Catalog.baseTypes?_lists_ancestors hbases).2.2.1 3 (Nat.le_refl 3)⟩

end Wiring
