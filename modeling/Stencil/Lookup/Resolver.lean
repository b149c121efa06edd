import Stencil.Data.Member
import Stencil.Journal.Noted

/-!
# Looking up members

A lookup reads a named member of a value, or says why there is none. Mappings are read by their keys, and
all values by their attributes, of which only public data are visible: no name that is empty or starts
with an underscore, and no function. A chain tries its parts in order; from nothing it reads nothing.
-/

namespace Stencil

/-- The result of a lookup. -/
abbrev Found := Except Absence Value

/-- A way to read members. -/
abbrev Lookup := Value → String → Noted Found

namespace Lookup

/-- A member that is not there. -/
def missing (target : Value) (name : String) : Found :=
  .error (.noMember target.typeName name)

/-- The value under a key of a mapping. What is no mapping is asked for its class first. -/
def entries : Lookup := fun target name =>
  match target with
  | .mapping _ pairs => pure (match Entries.find? pairs name with
      | some value => .ok value
      | none => missing target name)
  | _ => match target.classFault? with
      | some fault => Noted.fail fault
      | none => pure (missing target name)

/-- Names of attributes that templates may read. -/
def isPublic (name : String) : Bool :=
  match name.toList with
  | [] => false
  | c :: _ => c ≠ '_'

/-- The value of a public attribute. A property that raises a fault is noted and counts as absent, as long as
the fault is caught and has a text; the type of what is found is tested last. -/
def attributes : Lookup := fun target name =>
  if target.isNothing || !isPublic name then pure (missing target name)
  else
    match target.attributeNamed name with
    | .absent => pure (missing target name)
    | .broken fault => do
        let reason ← Noted.ofExcept fault.caught
        let absence := Absence.unreadable name target.typeName reason
        Noted.note (.unreadable absence)
        pure (.error absence)
    | .found value => match value.typeFault? with
        | some fault => Noted.fail fault
        | none => pure (if value.isRoutine then missing target name else .ok value)

end Lookup

/-- The ways to look up members that an engine can be given: those of the library, and any other that finds a
value, says why there is none, or raises a fault. -/
inductive Resolver
  | entries
  | attributes
  | chain (parts : List Resolver)
  | custom (answer : Value → String → Except Fault Found)
  deriving Inhabited

namespace Resolver

mutual

/-- The lookup of a resolver. -/
def lookup : Resolver → Lookup
  | entries, target, name => Lookup.entries target name
  | attributes, target, name => Lookup.attributes target name
  | chain parts, target, name =>
      if target.isNothing then pure (.error (.ofNothing name))
      else lookupFirst parts target name
  | custom answer, target, name => Noted.ofExcept (answer target name)

/-- The first success among some resolvers. -/
def lookupFirst : List Resolver → Lookup
  | [], target, name => pure (Lookup.missing target name)
  | part :: parts, target, name => do
      match ← lookup part target name with
      | .ok value => pure (.ok value)
      | .error _ => lookupFirst parts target name

end

theorem lookup_chain_of_ne_nothing {target : Value} (h : target ≠ .nothing) (parts : List Resolver)
    (name : String) : lookup (chain parts) target name = lookupFirst parts target name := by
  rw [lookup, if_neg (by rwa [Value.isNothing_iff])]

/-- A chain reads nothing from nothing, whatever its parts are. -/
theorem lookup_chain_nothing (parts : List Resolver) (name : String) :
    lookup (chain parts) .nothing name = pure (.error (.ofNothing name)) := by
  rw [lookup]
  rfl

/-- Mappings are read by their keys first, and then by their attributes as all values are. -/
def standard : Resolver :=
  chain [entries, attributes]

/-- The same value for every name. -/
def constant (value : Value) : Resolver :=
  custom fun _ _ => .ok (.ok value)

/-- No value for any name, for the same reason. -/
def failing (text : String) : Resolver :=
  custom fun _ _ => .ok (.error (.stated text))

/-- The same fault for every name. -/
def raising (fault : Fault) : Resolver :=
  custom fun _ _ => .error fault

end Resolver

/-! ## Paths -/

namespace Lookup

/-- Goes on along a path, from a value that was reached along `walked`. -/
def walkFrom (look : Lookup) (walked : List String) (current : Value) : List String → Noted Found
  | [] => pure (.ok current)
  | name :: path => do
      let walked := walked ++ [name]
      match ← look current name with
      | .ok value => walkFrom look walked value path
      | .error absence => pure (.error (.unresolved walked absence))

/-- Goes along a path, one member after the other. -/
def walk (look : Lookup) (target : Value) (path : List String) : Noted Found :=
  if path.isEmpty then pure (.error .emptyPath) else look.walkFrom [] target path

/-- A path that is not empty is walked from its first name. -/
theorem walk_of_ne_nil {look : Lookup} (target : Value) {path : List String} (hpath : path ≠ []) :
    look.walk target path = look.walkFrom [] target path := by
  rw [walk, if_neg (by simpa using hpath)]

end Lookup

end Stencil
