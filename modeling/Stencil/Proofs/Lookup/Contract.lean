import Stencil.Lookup.Resolver

/-!
# Contracts of lookups

Much of what is said about lookups is said of every single step and then holds of whatever is built from the
steps: that a lookup ends in no fault, that it warns of nothing, that a voice only filters its notes. Such a
contract has to be kept by sequences (`Lookup.Contract`). What keeps it in single lookups keeps it in chains
(`Resolver.keeps_chain`) and along paths (`Lookup.Keeps.walk`).
-/

namespace Stencil
namespace Lookup

/-- A contract of computations that look for a member, and the values among which it is to hold: a computation
that gives a reason keeps it, and one that gives such a value; and so does a sequence whose first part keeps it,
and whose second part keeps it behind a reason and behind every such value. -/
structure Contract (inside : Value → Prop) (holds : Noted Found → Prop) : Prop where
  absent : ∀ absence, holds (pure (.error absence))
  found : ∀ {value}, inside value → holds (pure (.ok value))
  bind : ∀ {first : Noted Found} {rest : Found → Noted Found}, holds first →
    (∀ absence, holds (rest (.error absence))) →
      (∀ value, inside value → holds (rest (.ok value))) → holds (first >>= rest)

/-- The lookup keeps the contract on all values among which it is to hold. -/
def Keeps (look : Lookup) (inside : Value → Prop) (holds : Noted Found → Prop) : Prop :=
  ∀ target name, inside target → holds (look target name)

section Paths

variable {inside : Value → Prop} {holds : Noted Found → Prop} {look : Lookup}

theorem Keeps.walkFrom (h : look.Keeps inside holds) (hcontract : Contract inside holds)
    (walked : List String) {current : Value} (hcurrent : inside current) (path : List String) :
    holds (look.walkFrom walked current path) := by
  induction path generalizing walked current with
  | nil => exact hcontract.found hcurrent
  | cons name path ih =>
      refine hcontract.bind (h current name hcurrent) ?_ ?_
      · exact fun absence => hcontract.absent _
      · exact fun value hvalue => ih (walked ++ [name]) hvalue

/-- A contract that every step keeps is kept along every path. -/
theorem Keeps.walk (h : look.Keeps inside holds) (hcontract : Contract inside holds) {target : Value}
    (htarget : inside target) (path : List String) : holds (look.walk target path) := by
  by_cases hpath : path = []
  · subst hpath
    exact hcontract.absent _
  · rw [walk_of_ne_nil target hpath]
    exact h.walkFrom hcontract [] htarget path

end Paths

end Lookup

namespace Resolver

open Lookup (Contract Keeps)

variable {inside : Value → Prop} {holds : Noted Found → Prop}

theorem keeps_lookupFirst (hcontract : Contract inside holds) {parts : List Resolver}
    (h : ∀ part, part ∈ parts → part.lookup.Keeps inside holds) :
    Keeps (lookupFirst parts) inside holds := by
  intro target name htarget
  induction parts with
  | nil =>
      rw [lookupFirst]
      exact hcontract.absent _
  | cons part parts ih =>
      rw [lookupFirst]
      refine hcontract.bind (h part List.mem_cons_self target name htarget) ?_ ?_
      · exact fun absence => ih fun other hother => h other (List.mem_cons_of_mem part hother)
      · exact fun value hvalue => hcontract.found hvalue

/-- A contract that every part keeps is kept by the chain. -/
theorem keeps_chain (hcontract : Contract inside holds) {parts : List Resolver}
    (h : ∀ part, part ∈ parts → part.lookup.Keeps inside holds) :
    (chain parts).lookup.Keeps inside holds := by
  intro target name htarget
  rw [lookup]
  split
  · exact hcontract.absent _
  · exact keeps_lookupFirst hcontract h target name htarget

theorem keeps_entries (h : Lookup.entries.Keeps inside holds) : entries.lookup.Keeps inside holds := by
  intro target name htarget
  rw [lookup]
  exact h target name htarget

theorem keeps_attributes (h : Lookup.attributes.Keeps inside holds) :
    attributes.lookup.Keeps inside holds := by
  intro target name htarget
  rw [lookup]
  exact h target name htarget

theorem keeps_standard (hcontract : Contract inside holds) (hentries : Lookup.entries.Keeps inside holds)
    (hattributes : Lookup.attributes.Keeps inside holds) : standard.lookup.Keeps inside holds := by
  refine keeps_chain hcontract ?_
  intro part hpart
  rcases List.mem_cons.mp hpart with rfl | hpart
  · exact keeps_entries hentries
  · rw [List.mem_singleton.mp hpart]
    exact keeps_attributes hattributes

/-- A contract that the single lookups of the library keep, and all other ways to answer, is kept by every
resolver. -/
theorem keeps_of_leaves (hcontract : Contract inside holds) (hentries : Lookup.entries.Keeps inside holds)
    (hattributes : Lookup.attributes.Keeps inside holds)
    (hcustom : ∀ result, holds (Noted.ofExcept result)) :
    ∀ resolver : Resolver, resolver.lookup.Keeps inside holds
  | entries => keeps_entries hentries
  | attributes => keeps_attributes hattributes
  | chain parts => keeps_chain hcontract fun part _ =>
      keeps_of_leaves hcontract hentries hattributes hcustom part
  | custom answer => by
      intro target name _
      rw [lookup]
      exact hcustom _

end Resolver
end Stencil
