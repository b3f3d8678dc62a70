/-!
Chains of services, on one line or top to bottom with a lifetime label before each name.
-/

namespace Wiring

structure ChainLink where
  name : String
  lifetime : String
  /-- How this link was reached from the one before it. -/
  via : Option String
  deriving DecidableEq, Repr

namespace Text

def chain (names : List String) : String := " → ".intercalate names

/-- The widest label, in bytes. -/
def labelWidth (links : List ChainLink) : Nat :=
  links.foldl (fun width link => max width link.lifetime.utf8ByteSize) 0

def spaces (count : Nat) : String := String.ofList (List.replicate count ' ')

/-- Labels are filled up to `width` characters. -/
def linkLine (width : Nat) (link : ChainLink) : String :=
  "[" ++ link.lifetime ++ spaces (width - link.lifetime.length) ++ "] " ++ link.name ++ "\n"

def arrowLine (width : Nat) (link : ChainLink) : String :=
  spaces (width + 3) ++ "↓" ++
    (match link.via with
      | some via => " (" ++ via ++ ")"
      | none => "") ++ "\n"

def verticalChain (links : List ChainLink) : String :=
  let width := labelWidth links
  match links with
  | [] => ""
  | top :: rest =>
    linkLine width top ++
      String.join (rest.map fun link => arrowLine width link ++ linkLine width link)

end Text
end Wiring
