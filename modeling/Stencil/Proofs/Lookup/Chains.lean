import Stencil.Lookup.Resolver
import Stencil.Proofs.Journal.Outcome

/-!
# Chains of resolvers

The parts of a chain may be chains themselves, to any depth. What such a chain looks up does not depend on how
its parts are grouped, only on the resolvers at the leaves and on their order (`Resolver.leaves`).

* `Resolver.lookupFirst_append`: trying the parts of two lists is trying those of the first, and then those of
  the second if the first find nothing.
* `Resolver.lookupFirst_leaves_append`: a part is as good as its leaves, whatever is tried behind them.
* `Resolver.chain_looks_up_by_leaves`: a chain of chains looks up what the chain of its leaves does, and which
  leaf decides.
-/

namespace Stencil
namespace Resolver

mutual

/-- The resolvers that are no chains and that a resolver consists of, in the order in which they are tried. -/
def leaves : Resolver → List Resolver
  | chain parts => leavesOf parts
  | entries => [entries]
  | attributes => [attributes]
  | custom answer => [custom answer]

def leavesOf : List Resolver → List Resolver
  | [] => []
  | part :: parts => leaves part ++ leavesOf parts

end

mutual

/-- No leaf is a chain. -/
theorem ne_chain_of_mem_leaves : ∀ (resolver : Resolver) {leaf : Resolver},
    leaf ∈ resolver.leaves → ∀ parts, leaf ≠ chain parts
  | chain parts, leaf, h, others => by
      rw [leaves] at h
      exact ne_chain_of_mem_leavesOf parts h others
  | entries, leaf, h, others => by
      rw [leaves, List.mem_singleton] at h
      simp [h]
  | attributes, leaf, h, others => by
      rw [leaves, List.mem_singleton] at h
      simp [h]
  | custom answer, leaf, h, others => by
      rw [leaves, List.mem_singleton] at h
      simp [h]

theorem ne_chain_of_mem_leavesOf : ∀ (parts : List Resolver) {leaf : Resolver},
    leaf ∈ leavesOf parts → ∀ others, leaf ≠ chain others
  | [], leaf, h, others => by
      rw [leavesOf] at h
      cases h
  | part :: parts, leaf, h, others => by
      rw [leavesOf, List.mem_append] at h
      rcases h with hpart | hparts
      · exact ne_chain_of_mem_leaves part hpart others
      · exact ne_chain_of_mem_leavesOf parts hparts others

end

/-! ## Trying one resolver after the other -/

/-- What is found, or else what comes next. -/
def orNext (next : Noted Found) : Found → Noted Found
  | .ok value => pure (.ok value)
  | .error _ => next

section Order

variable {target : Value} {name : String}

theorem lookupFirst_cons (part : Resolver) (parts : List Resolver) :
    lookupFirst (part :: parts) target name =
      lookup part target name >>= orNext (lookupFirst parts target name) := by
  rw [lookupFirst]
  rfl

/-- The second list is tried if the first finds nothing; why the first finds nothing is forgotten. -/
theorem lookupFirst_append (parts more : List Resolver) :
    lookupFirst (parts ++ more) target name =
      lookupFirst parts target name >>= orNext (lookupFirst more target name) := by
  induction parts with
  | nil =>
      rw [List.nil_append, lookupFirst.eq_1, pure_bind]
      rfl
  | cons part parts ih =>
      rw [List.cons_append, lookupFirst_cons, lookupFirst_cons, ih, bind_assoc]
      congr 1
      funext found
      cases found with
      | ok value => exact (pure_bind _ _).symm
      | error absence => rfl

mutual

/-- A part is as good as its leaves, whatever is tried behind them. -/
theorem lookupFirst_leaves_append (h : target ≠ .nothing) : ∀ (part : Resolver) (behind : List Resolver),
    lookupFirst (part :: behind) target name = lookupFirst (part.leaves ++ behind) target name
  | chain parts, behind => by
      calc
        lookupFirst (chain parts :: behind) target name
            = lookupFirst parts target name >>= orNext (lookupFirst behind target name) := by
              rw [lookupFirst_cons, lookup_chain_of_ne_nothing h]
        _ = lookupFirst (parts ++ behind) target name := (lookupFirst_append parts behind).symm
        _ = lookupFirst ((chain parts).leaves ++ behind) target name := by
              rw [leaves, lookupFirst_leavesOf_append h parts behind]
  | entries, behind => by
      rw [leaves, List.singleton_append]
  | attributes, behind => by
      rw [leaves, List.singleton_append]
  | custom answer, behind => by
      rw [leaves, List.singleton_append]

theorem lookupFirst_leavesOf_append (h : target ≠ .nothing) : ∀ parts behind : List Resolver,
    lookupFirst (parts ++ behind) target name = lookupFirst (leavesOf parts ++ behind) target name
  | [], behind => by
      rw [leavesOf]
  | part :: parts, behind => by
      calc
        lookupFirst (part :: (parts ++ behind)) target name
            = lookup part target name >>= orNext (lookupFirst (parts ++ behind) target name) :=
              lookupFirst_cons part (parts ++ behind)
        _ = lookupFirst (part :: (leavesOf parts ++ behind)) target name := by
              rw [lookupFirst_leavesOf_append h parts behind, lookupFirst_cons]
        _ = lookupFirst (leavesOf (part :: parts) ++ behind) target name := by
              rw [leavesOf, List.append_assoc, lookupFirst_leaves_append h part]

end

/-- A chain looks up what the chain of its leaves does: the same values, reasons, faults and notes. -/
theorem lookup_chain_leavesOf (parts : List Resolver) :
    lookup (chain parts) target name = lookup (chain (leavesOf parts)) target name := by
  by_cases h : target = .nothing
  · rw [h, lookup_chain_nothing, lookup_chain_nothing]
  · rw [lookup_chain_of_ne_nothing h, lookup_chain_of_ne_nothing h]
    simpa using lookupFirst_leavesOf_append h parts []

end Order

/-! ## The resolver that decides -/

/-- The resolver finds no such member, and raises no fault. -/
def FindsNothing (voice : Voice) (target : Value) (name : String) (resolver : Resolver) : Prop :=
  ∃ absence, (resolver.lookup target name).result voice = .ok (.error absence)

section Decision

variable {voice : Voice} {target : Value} {name : String}

theorem result_lookupFirst_of_findsNothing {part : Resolver} (h : FindsNothing voice target name part)
    (parts : List Resolver) :
    (lookupFirst (part :: parts) target name).result voice =
      (lookupFirst parts target name).result voice := by
  obtain ⟨absence, habsence⟩ := h
  rw [lookupFirst_cons, Noted.result_bind, habsence]
  rfl

theorem result_lookupFirst_of_decides {part : Resolver} (h : ¬ FindsNothing voice target name part)
    (parts : List Resolver) :
    (lookupFirst (part :: parts) target name).result voice = (part.lookup target name).result voice := by
  rw [lookupFirst_cons, Noted.result_bind]
  rcases hanswer : (part.lookup target name).result voice with fault | absence | value
  · rfl
  · exact absurd ⟨absence, hanswer⟩ h
  · rfl

/-- The first resolver finds the value, or it finds nothing and the others find the value. -/
theorem result_lookupFirst_cons_eq_found_iff {part : Resolver} {parts : List Resolver} {value : Value} :
    (lookupFirst (part :: parts) target name).result voice = .ok (.ok value) ↔
      (part.lookup target name).result voice = .ok (.ok value) ∨
        FindsNothing voice target name part ∧
          (lookupFirst parts target name).result voice = .ok (.ok value) := by
  by_cases h : FindsNothing voice target name part
  · rw [result_lookupFirst_of_findsNothing h]
    obtain ⟨absence, habsence⟩ := h
    simp [FindsNothing, habsence]
  · rw [result_lookupFirst_of_decides h]
    simp [h]

/-- The first resolver raises the fault, or it finds nothing and the others raise the fault. -/
theorem result_lookupFirst_cons_eq_error_iff {part : Resolver} {parts : List Resolver} {fault : Fault} :
    (lookupFirst (part :: parts) target name).result voice = .error fault ↔
      (part.lookup target name).result voice = .error fault ∨
        FindsNothing voice target name part ∧
          (lookupFirst parts target name).result voice = .error fault := by
  by_cases h : FindsNothing voice target name part
  · rw [result_lookupFirst_of_findsNothing h]
    obtain ⟨absence, habsence⟩ := h
    simp [FindsNothing, habsence]
  · rw [result_lookupFirst_of_decides h]
    simp [h]

/-- Resolvers that find nothing are passed over. -/
theorem result_lookupFirst_append_of_findsNothing {before : List Resolver}
    (h : ∀ part, part ∈ before → FindsNothing voice target name part) (parts : List Resolver) :
    (lookupFirst (before ++ parts) target name).result voice =
      (lookupFirst parts target name).result voice := by
  induction before with
  | nil => rfl
  | cons part before ih =>
      rw [List.cons_append, result_lookupFirst_of_findsNothing (h part List.mem_cons_self)]
      exact ih fun other hother => h other (List.mem_cons_of_mem part hother)

end Decision

/-- For every chain, whose parts may be chains to any depth, every target and every name: the chain looks up
what the single chain of its leaves does, with the same value, reason, fault and notes. From nothing it reads
nothing, and none of the leaves is tried. From any other value, the result is that of the first leaf that finds
a value or raises a fault; if there is no such leaf, the member is missing. -/
theorem chain_looks_up_by_leaves (parts : List Resolver) (target : Value) (name : String) :
    (∀ leaf, leaf ∈ leavesOf parts → ∀ others, leaf ≠ chain others) ∧
    (chain parts).lookup target name = (chain (leavesOf parts)).lookup target name ∧
    ∀ voice : Voice,
      (target = .nothing →
        ((chain parts).lookup target name).result voice = .ok (.error (.ofNothing name))) ∧
      (target ≠ .nothing →
        (∀ before leaf behind, leavesOf parts = before ++ leaf :: behind →
          (∀ other, other ∈ before → FindsNothing voice target name other) →
          ¬ FindsNothing voice target name leaf →
            ((chain parts).lookup target name).result voice =
              (leaf.lookup target name).result voice) ∧
        ((∀ leaf, leaf ∈ leavesOf parts → FindsNothing voice target name leaf) →
          ((chain parts).lookup target name).result voice = .ok (Lookup.missing target name))) := by
  refine ⟨fun leaf hleaf => ne_chain_of_mem_leavesOf parts hleaf, lookup_chain_leavesOf parts, ?_⟩
  intro voice
  refine ⟨?_, fun htarget => ?_⟩
  · rintro rfl
    rw [lookup_chain_nothing, Noted.result_pure]
  · rw [lookup_chain_leavesOf, lookup_chain_of_ne_nothing htarget]
    constructor
    · intro before leaf behind hleaves hbefore hleaf
      rw [hleaves, result_lookupFirst_append_of_findsNothing hbefore,
        result_lookupFirst_of_decides hleaf]
    · intro hall
      rw [← List.append_nil (leavesOf parts), result_lookupFirst_append_of_findsNothing hall,
        lookupFirst.eq_1, Noted.result_pure]

/-- Chains in a chain, one of them empty: the mapping has no such key and the next leaf gives a reason, so the
fault of the third leaf is the result, and the value behind it is not looked for. -/
theorem chain_looks_up_by_leaves_of_nested_chains :
    let fault := Fault.raised .badValue "no"
    let parts := [chain [], chain [entries, chain [failing "no"]], chain [raising fault, constant .nothing]]
    let before := [entries, failing "no"]
    let target : Value := .mapping false [(.text "name", .text "Ada")]
    target ≠ .nothing ∧ leavesOf parts = before ++ raising fault :: [constant .nothing] ∧
      (∀ other, other ∈ before → FindsNothing {} target "size" other) ∧
      ¬ FindsNothing {} target "size" (raising fault) ∧
      ((chain parts).lookup target "size").result {} = .error fault := by
  intro fault parts before target
  have htarget : target ≠ .nothing := by simp [target]
  have hleaves : leavesOf parts = before ++ raising fault :: [constant .nothing] := rfl
  have hbefore : ∀ other, other ∈ before → FindsNothing {} target "size" other := by
    intro other hother
    rcases List.mem_cons.mp hother with rfl | hother
    · exact ⟨.noMember "dict" "size", rfl⟩
    · rw [List.mem_singleton.mp hother]
      exact ⟨.stated "no", rfl⟩
  have hfault : ((raising fault).lookup target "size").result {} = .error fault := rfl
  have hdecides : ¬ FindsNothing {} target "size" (raising fault) := by
    rintro ⟨absence, habsence⟩
    rw [hfault] at habsence
    cases habsence
  have hresult := ((chain_looks_up_by_leaves parts target "size").2.2 {}).2 htarget |>.1 before
    (raising fault) [constant .nothing] hleaves hbefore hdecides
  exact ⟨htarget, hleaves, hbefore, hdecides, hresult.trans hfault⟩

/-- From nothing, a chain does not read what its first leaf finds there. -/
theorem chain_reads_nothing_from_nothing :
    ¬ ∀ (parts : List Resolver) (target : Value) (name : String) (voice : Voice)
        (before : List Resolver) (leaf : Resolver) (behind : List Resolver),
        leavesOf parts = before ++ leaf :: behind →
        (∀ other, other ∈ before → FindsNothing voice target name other) →
        ¬ FindsNothing voice target name leaf →
          ((chain parts).lookup target name).result voice = (leaf.lookup target name).result voice := by
  intro hall
  let leaf := constant (.integer 5)
  have hfound : (leaf.lookup .nothing "x").result {} = .ok (.ok (.integer 5)) := rfl
  have hdecides : ¬ FindsNothing {} .nothing "x" leaf := by
    rintro ⟨absence, habsence⟩
    rw [hfound] at habsence
    cases habsence
  have hchain : ((chain [chain [leaf]]).lookup .nothing "x").result {} =
      .ok (.error (.ofNothing "x")) := rfl
  have hsame := hall [chain [leaf]] .nothing "x" {} [] leaf [] rfl (List.forall_mem_nil _) hdecides
  rw [hchain, hfound] at hsame
  cases hsame

end Resolver
end Stencil
