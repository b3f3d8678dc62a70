import Wiring.Proofs.Text.ShortForm
import Wiring.TypeExpr.Text

/-!
Short forms of printed types. A delimiter ends the path before it, whatever colons that path ends
with, so a text is shortened piece by piece between its delimiters. In the text of a type every
name stands between two of them, or at an end, and the rest of the text is delimiters: to shorten
the text is to shorten the names.
-/

namespace Wiring

namespace Text

variable {c d : Char} {pending path rest : List Char}

/-- One character at a time, but for two colons in a row. -/
theorem shortenFrom_cons (h : ∀ after, c = ':' → rest = ':' :: after → False) :
    shortenFrom pending (c :: rest) =
      if isDelimiter c then pending.reverse ++ c :: shortenFrom [] rest
      else shortenFrom (c :: pending) rest := by
  rw [shortenFrom]
  exact h

theorem shortenFrom_delimiter (h : isDelimiter d) :
    shortenFrom pending (d :: rest) = pending.reverse ++ d :: shortenFrom [] rest := by
  have hcolon := ne_colon_of_isDelimiter h
  rw [shortenFrom_cons fun after heq _ => hcolon heq, if_pos h]

/-- The text before a delimiter is shortened on its own. -/
theorem shortenFrom_append_delimiter (h : isDelimiter d) :
    shortenFrom pending (path ++ d :: rest) =
      shortenFrom pending path ++ d :: shortenFrom [] rest := by
  fun_induction shortenFrom pending path with
  | case1 pending => exact shortenFrom_delimiter h
  | case2 pending more ih => exact ih
  | case3 pending c more hpair hc ih =>
    rw [List.cons_append, shortenFrom_delimiter hc, ih]
    simp
  | case4 pending c more hpair hc ih =>
    -- a colon at the end of the path meets the delimiter, not another colon
    have hpair' : ∀ after, c = ':' → more ++ d :: rest = ':' :: after → False := by
      intro after hcolon heq
      cases more with
      | nil => exact ne_colon_of_isDelimiter h (List.cons.inj heq).1
      | cons next more' =>
        rw [(List.cons.inj heq).1] at hpair
        exact hpair more' hcolon rfl
    rw [List.cons_append, shortenFrom_cons hpair', if_neg hc, ih]

/-- Nothing follows, or a delimiter does. -/
def Delimited (rest : List Char) : Prop := ∀ c ∈ rest.head?, isDelimiter c

theorem delimited_cons (h : isDelimiter d) (rest : List Char) : Delimited (d :: rest) := by
  rintro c ⟨⟩
  exact h

theorem shortenFrom_append (h : Delimited rest) :
    shortenFrom pending (path ++ rest) = shortenFrom pending path ++ shortenFrom [] rest := by
  cases rest with
  | nil => simp [shortenFrom]
  | cons d rest =>
    have hd : isDelimiter d := h d rfl
    rw [shortenFrom_append_delimiter hd, shortenFrom_delimiter hd]
    rfl

end Text

namespace TypeExpr

mutual
/-- Changes every name in a type, at whatever level. -/
def mapNames (f : String → String) : TypeExpr → TypeExpr
  | ⟨kind, name, args, nullable⟩ => ⟨kind, f name, mapNamesAll f args, nullable⟩

def mapNamesAll (f : String → String) : List TypeExpr → List TypeExpr
  | [] => []
  | type :: types => type.mapNames f :: mapNamesAll f types
end

open Text

variable {rest : List Char}

/-- Before a delimiter, or at an end, the text of the type is shortened to its text with shorter
names. -/
def Shortens (type : TypeExpr) : Prop :=
  ∀ rest, Delimited rest → shortenFrom [] (type.chars ++ rest) =
    (type.mapNames shorten).chars ++ shortenFrom [] rest

theorem delimited_furtherChars (types : List TypeExpr) (rest : List Char) :
    Delimited (furtherChars types ++ rest) := by
  cases types with
  | nil => exact delimited_cons rfl _
  | cons type types => exact delimited_cons rfl _

theorem delimited_argumentChars (types : List TypeExpr) (h : Delimited rest) :
    Delimited (argumentChars types ++ rest) := by
  cases types with
  | nil => exact h
  | cons type types => exact delimited_cons rfl _

theorem delimited_mark (nullable : Bool) (h : Delimited rest) :
    Delimited ((if nullable then ['?'] else []) ++ rest) := by
  cases nullable with
  | false => exact h
  | true => exact delimited_cons rfl _

theorem shortenFrom_mark (nullable : Bool) (rest : List Char) :
    shortenFrom [] ((if nullable then ['?'] else []) ++ rest) =
      (if nullable then ['?'] else []) ++ shortenFrom [] rest := by
  cases nullable with
  | false => rfl
  | true => exact shortenFrom_delimiter rfl

theorem shortenFrom_furtherChars {types : List TypeExpr} (h : ∀ type ∈ types, type.Shortens) :
    shortenFrom [] (furtherChars types ++ rest) =
      furtherChars (mapNamesAll shorten types) ++ shortenFrom [] rest := by
  induction types with
  | nil => exact shortenFrom_delimiter rfl
  | cons type types ih =>
    have htype := h type List.mem_cons_self _ (delimited_furtherChars types rest)
    have htypes := ih fun other hother => h other (List.mem_cons_of_mem type hother)
    simp only [furtherChars, mapNamesAll, List.cons_append, List.append_assoc]
    rw [shortenFrom_delimiter rfl, shortenFrom_delimiter rfl, htype, htypes]
    rfl

theorem shortenFrom_argumentChars {types : List TypeExpr} (h : ∀ type ∈ types, type.Shortens) :
    shortenFrom [] (argumentChars types ++ rest) =
      argumentChars (mapNamesAll shorten types) ++ shortenFrom [] rest := by
  cases types with
  | nil => rfl
  | cons type types =>
    have htype := h type List.mem_cons_self _ (delimited_furtherChars types rest)
    have htypes : shortenFrom [] (furtherChars types ++ rest) = _ :=
      shortenFrom_furtherChars fun other hother => h other (List.mem_cons_of_mem type hother)
    simp only [argumentChars, mapNamesAll, List.cons_append, List.append_assoc]
    rw [shortenFrom_delimiter rfl, htype, htypes]
    rfl

/-- The brackets of an array end the text of its element. -/
theorem shortenFrom_elementChars {types : List TypeExpr} (h : ∀ type ∈ types, type.Shortens) :
    shortenFrom [] (elementChars types ++ ('[' :: ']' :: rest)) =
      elementChars (mapNamesAll shorten types) ++ '[' :: ']' :: shortenFrom [] rest := by
  have hbrackets : shortenFrom [] ('[' :: ']' :: rest) = '[' :: ']' :: shortenFrom [] rest := by
    rw [shortenFrom_delimiter rfl, shortenFrom_delimiter rfl]
    rfl
  cases types with
  | nil =>
    simp only [elementChars, mapNamesAll, List.cons_append, List.nil_append]
    rw [shortenFrom_delimiter rfl, hbrackets]
    rfl
  | cons element types =>
    have hdelimited : Delimited ('[' :: ']' :: rest) := delimited_cons rfl _
    have helement := h element List.mem_cons_self _ hdelimited
    simp only [elementChars, mapNamesAll]
    rw [helement, hbrackets]

theorem shortens (type : TypeExpr) : type.Shortens := by
  induction type with
  | mk kind name args nullable ih =>
    intro rest hrest
    simp only [chars, mapNames]
    by_cases hkind : kind = .array
    · rw [if_pos hkind, if_pos hkind]
      simp only [List.append_assoc, List.cons_append, List.nil_append]
      rw [shortenFrom_elementChars ih, shortenFrom_mark]
    · rw [if_neg hkind, if_neg hkind]
      simp only [List.append_assoc]
      rw [shortenFrom_append (delimited_argumentChars args (delimited_mark nullable hrest)),
        shortenFrom_argumentChars ih, shortenFrom_mark, shorten, String.toList_ofList]

/-- What messages show of a type is its text with every name in it shortened, whatever
characters the names are made of and however the type is nested. -/
theorem displayName_eq_text_mapNames (type : TypeExpr) :
    type.displayName = (type.mapNames shorten).text := by
  have hshortens := type.shortens [] (by rintro c ⟨⟩)
  simp only [List.append_nil, shortenFrom, List.reverse_nil] at hshortens
  rw [displayName, shorten, text, String.toList_ofList, hshortens, text]

/-- Colons that end a name, or are left over from one, stay with it. -/
example :
    (TypeExpr.mk .classType "app::Cache:" [⟨.classType, "core:::Key", [], true⟩,
      arrayOf ⟨.structType, "app::", [], false⟩] true).displayName = "Cache:<:Key?, []>?" := by
  decide +kernel

end TypeExpr
end Wiring
