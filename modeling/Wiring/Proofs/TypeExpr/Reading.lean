import Wiring.TypeExpr.Text

/-!
Printed types can be read back, one character after another and without looking ahead: at any point
the text so far has settled the type at hand and those in whose argument lists it stands. A text
does not tell of which kind a part is that is not an array. All else of a type is read off its text,
if arrays have one element each and names have no delimiters; so types with one text differ in those
kinds at most.
-/

namespace Wiring.TypeExpr

open Text

mutual
/-- Arrays have one element each, and no other name has a delimiter in it. A name may be empty: the
delimiters around it still show where it stands. -/
def isLegible : TypeExpr → Bool
  | ⟨kind, name, args, _⟩ =>
    (if kind = .array then args.length == 1 else name.toList.all (!isDelimiter ·)) &&
      allLegible args

def allLegible : List TypeExpr → Bool
  | [] => true
  | type :: types => type.isLegible && allLegible types
end

mutual
/-- The type with classes for all parts that are not arrays. Arrays have no name. -/
def kindless : TypeExpr → TypeExpr
  | ⟨kind, name, args, nullable⟩ =>
    if kind = .array then ⟨.array, "", kindlessAll args, nullable⟩
    else ⟨.classType, name, kindlessAll args, nullable⟩

def kindlessAll : List TypeExpr → List TypeExpr
  | [] => []
  | type :: types => type.kindless :: kindlessAll types
end

/-- The type at hand and, from the inside out, those in whose argument lists it stands. -/
structure Reading where
  current : TypeExpr
  enclosing : List TypeExpr

namespace Reading

/-- Nothing is read of the type at hand. -/
def start (enclosing : List TypeExpr) : Reading := ⟨⟨.classType, "", [], false⟩, enclosing⟩

/-- An argument of the type at hand begins. -/
def enter (reading : Reading) : Reading := start (reading.current :: reading.enclosing)

/-- The type at hand is complete, an argument of the one around it. -/
def leave (reading : Reading) : Reading :=
  match reading.enclosing with
  | [] => reading
  | outer :: enclosing => ⟨{ outer with args := outer.args ++ [reading.current] }, enclosing⟩

def next (reading : Reading) (c : Char) : Reading :=
  match c with
  | '<' => reading.enter
  | ',' => reading.leave.enter
  | '>' => reading.leave
  | ']' => { reading with current := arrayOf reading.current }
  | '?' => { reading with current := { reading.current with nullable := true } }
  | ' ' | '[' => reading
  | c => { reading with current := { reading.current with name := reading.current.name.push c } }

def run (reading : Reading) (cs : List Char) : Reading := cs.foldl next reading

variable {enclosing : List TypeExpr}

theorem run_append (reading : Reading) (cs ds : List Char) :
    reading.run (cs ++ ds) = (reading.run cs).run ds :=
  List.foldl_append

theorem next_of_not_isDelimiter (reading : Reading) {c : Char} (h : ¬ isDelimiter c) :
    reading.next c =
      { reading with
        current := { reading.current with name := reading.current.name.push c } } := by
  unfold next
  split <;> first | rfl | exact absurd rfl h

theorem run_name (reading : Reading) {cs : List Char} (h : cs.all (!isDelimiter ·)) :
    reading.run cs =
      { reading with
        current := { reading.current with
          name := reading.current.name ++ String.ofList cs } } := by
  induction cs generalizing reading with
  | nil =>
    -- types are recursive, so a type is its parts only once it is taken apart
    obtain ⟨⟨kind, name, args, nullable⟩, enclosing⟩ := reading
    simp [run]
  | cons c cs ih =>
    obtain ⟨hc, hcs⟩ : ¬ isDelimiter c ∧ cs.all (!isDelimiter ·) := by simpa using h
    have hstep : reading.run (c :: cs) = (reading.next c).run cs := rfl
    rw [hstep, ih _ hcs, next_of_not_isDelimiter reading hc]
    simp [← String.toList_inj]

theorem run_mark (type : TypeExpr) (nullable : Bool) :
    run ⟨type, enclosing⟩ (if nullable then ['?'] else []) =
      ⟨{ type with nullable := type.nullable || nullable }, enclosing⟩ := by
  obtain ⟨kind, name, args, own⟩ := type
  cases nullable with
  | false => simp [run]
  | true => simp [run, next]

end Reading

open Reading

/-- Its text leaves a reading at the type, but for kinds. -/
def Reads (type : TypeExpr) : Prop :=
  ∀ enclosing, (start enclosing).run type.chars = ⟨type.kindless, enclosing⟩

/-- What follows the first argument up to the end of the list. -/
theorem run_furtherChars {types : List TypeExpr} (h : ∀ type ∈ types, type.Reads)
    (current outer : TypeExpr) (enclosing : List TypeExpr) :
    run ⟨current, outer :: enclosing⟩ (furtherChars types) =
      ⟨{ outer with args := outer.args ++ current :: kindlessAll types }, enclosing⟩ := by
  induction types generalizing current outer with
  | nil => rfl
  | cons type types ih =>
    obtain ⟨htype, htypes⟩ := List.forall_mem_cons.1 h
    have hcomma : run ⟨current, outer :: enclosing⟩ (furtherChars (type :: types)) =
        (start ({ outer with args := outer.args ++ [current] } :: enclosing)).run
          (type.chars ++ furtherChars types) := rfl
    rw [hcomma, run_append, htype, ih htypes, List.append_assoc]
    rfl

theorem run_argumentChars {types : List TypeExpr} (h : ∀ type ∈ types, type.Reads)
    (current : TypeExpr) (enclosing : List TypeExpr) :
    run ⟨current, enclosing⟩ (argumentChars types) =
      ⟨{ current with args := current.args ++ kindlessAll types }, enclosing⟩ := by
  cases types with
  | nil =>
    obtain ⟨kind, name, args, nullable⟩ := current
    simp [run, argumentChars, kindlessAll]
  | cons type types =>
    obtain ⟨htype, htypes⟩ := List.forall_mem_cons.1 h
    have hangle : run ⟨current, enclosing⟩ (argumentChars (type :: types)) =
        (start (current :: enclosing)).run (type.chars ++ furtherChars types) := rfl
    rw [hangle, run_append, htype, run_furtherChars htypes]
    rfl

theorem isLegible_of_mem {types : List TypeExpr} (h : allLegible types) :
    ∀ type ∈ types, type.isLegible := by
  induction types with
  | nil => simp
  | cons type types ih =>
    rw [allLegible, Bool.and_eq_true] at h
    exact List.forall_mem_cons.2 ⟨h.1, ih h.2⟩

theorem reads {type : TypeExpr} (h : type.isLegible) : type.Reads := by
  induction type with
  | mk kind name args nullable ih =>
    intro enclosing
    rw [isLegible, Bool.and_eq_true] at h
    obtain ⟨hown, hargs⟩ := h
    have hreads : ∀ arg ∈ args, arg.Reads :=
      fun arg harg => ih arg harg (isLegible_of_mem hargs arg harg)
    rw [chars, kindless, run_append]
    by_cases hkind : kind = .array
    · rw [if_pos hkind] at hown ⊢
      obtain ⟨element, rfl⟩ := List.length_eq_one_iff.1 (beq_iff_eq.1 hown)
      have helement := hreads element (List.mem_singleton_self element) enclosing
      have hbrackets : run ⟨element.kindless, enclosing⟩ ['[', ']'] =
          ⟨arrayOf element.kindless, enclosing⟩ := rfl
      rw [run_append, elementChars, helement, hbrackets, run_mark, if_pos hkind]
      rfl
    · rw [if_neg hkind] at hown ⊢
      rw [run_append, run_name _ hown, run_argumentChars hreads, run_mark, if_neg hkind]
      simp [start]

/-- The type of a text. -/
def read (text : String) : TypeExpr := ((start []).run text.toList).current

theorem read_text {type : TypeExpr} (h : type.isLegible) : read type.text = type.kindless := by
  rw [read, text, String.toList_ofList, reads h]

theorem furtherChars_kindlessAll {types : List TypeExpr}
    (h : ∀ type ∈ types, type.kindless.chars = type.chars) :
    furtherChars (kindlessAll types) = furtherChars types := by
  induction types with
  | nil => rfl
  | cons type types ih =>
    obtain ⟨htype, htypes⟩ := List.forall_mem_cons.1 h
    simp only [kindlessAll, furtherChars, htype, ih htypes]

/-- A text says nothing of kinds, arrays apart. -/
theorem chars_kindless (type : TypeExpr) : type.kindless.chars = type.chars := by
  induction type with
  | mk kind name args nullable ih =>
    have hargs : argumentChars (kindlessAll args) = argumentChars args ∧
        elementChars (kindlessAll args) = elementChars args := by
      cases args with
      | nil => exact ⟨rfl, rfl⟩
      | cons type types =>
        obtain ⟨htype, htypes⟩ := List.forall_mem_cons.1 ih
        simp only [kindlessAll, argumentChars, elementChars, htype,
          furtherChars_kindlessAll htypes, and_self]
    rw [kindless]
    split
    · next hkind => simp only [chars, hkind, if_true, hargs.2]
    · next hkind => simp only [chars, hkind, if_false, reduceCtorEq, hargs.1]

/-- Two types have one text exactly when they differ in nothing but the kinds of their parts, where
these are not arrays. -/
theorem text_eq_iff_kindless_eq {a b : TypeExpr} (ha : a.isLegible) (hb : b.isLegible) :
    a.text = b.text ↔ a.kindless = b.kindless := by
  constructor
  · intro h
    rw [← read_text ha, h, read_text hb]
  · intro h
    rw [text, text, ← chars_kindless a, h, chars_kindless]

/-- Tables by key, and lists of tables, any of which may be absent. -/
def tables (kind : TypeKind) (key : TypeExpr) : TypeExpr :=
  ⟨kind, "core::Tables", [{ arrayOf key with nullable := true },
    { arrayOf { arrayOf key with nullable := true } with nullable := true }], true⟩

/-- Tables of a class and of an interface are written alike. -/
theorem tables_text_shared :
    (tables .classType ⟨.parameter, "K", [], true⟩).isLegible ∧
    (tables .interfaceType ⟨.structType, "K", [], true⟩).isLegible ∧
    (tables .classType ⟨.parameter, "K", [], true⟩).text =
      (tables .interfaceType ⟨.structType, "K", [], true⟩).text ∧
    (tables .classType ⟨.parameter, "K", [], true⟩).kindless =
      (tables .interfaceType ⟨.structType, "K", [], true⟩).kindless :=
  have htext : (tables .classType ⟨.parameter, "K", [], true⟩).text =
      (tables .interfaceType ⟨.structType, "K", [], true⟩).text := by decide +kernel
  ⟨by decide +kernel, by decide +kernel, htext,
    (text_eq_iff_kindless_eq (by decide +kernel) (by decide +kernel)).1 htext⟩

/-- A mark is read where it stands: behind an element, behind its array, or behind both. -/
example :
    read "Row<Key?[], Key[]?>" = ⟨.classType, "Row", [arrayOf ⟨.classType, "Key", [], true⟩,
      { arrayOf ⟨.classType, "Key", [], false⟩ with nullable := true }], false⟩ := by
  decide +kernel

end Wiring.TypeExpr
