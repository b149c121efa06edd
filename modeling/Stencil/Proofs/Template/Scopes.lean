import Stencil.Template.Segment
import Mathlib.Data.List.Infix
import Mathlib.Data.List.MinMax
import Mathlib.Order.Nat

/-!
# Open scopes

Which scopes are open at a place of a template depends on the segments before it alone: a closing segment
closes the scope that was opened last, or nothing if no scope is open (`Segment.openScopes`). Here the
closing segments that close nothing and the scopes that stay open are counted, without following the scopes:
only the opening and the closing segments of the prefixes count.

* `Segment.countP_isStray_places`: the closing segments that close nothing are as many as the largest surplus
  of closing over opening segments in a prefix (`Segment.strays`).
* `Segment.length_openScopes`: the scopes that stay open are what is left of the opening segments
  (`Segment.leftOpen`).
* `Segment.isBalanced_iff`: the two numbers are zero for balanced segments only.
-/

namespace Stencil

namespace Segment

/-! ## Numbers of segments -/

def isScopeOpen : Segment → Bool
  | scopeOpen _ => true
  | _ => false

def isScopeClose : Segment → Bool
  | scopeClose => true
  | _ => false

def opens (segments : List Segment) : Nat :=
  segments.countP isScopeOpen

def closes (segments : List Segment) : Nat :=
  segments.countP isScopeClose

theorem opens_cons_scopeOpen (name : String) (segments : List Segment) :
    opens (scopeOpen name :: segments) = opens segments + 1 :=
  List.countP_cons_of_pos rfl

theorem closes_cons_scopeOpen (name : String) (segments : List Segment) :
    closes (scopeOpen name :: segments) = closes segments :=
  List.countP_cons_of_neg Bool.false_ne_true

theorem opens_cons_scopeClose (segments : List Segment) :
    opens (scopeClose :: segments) = opens segments :=
  List.countP_cons_of_neg Bool.false_ne_true

theorem closes_cons_scopeClose (segments : List Segment) :
    closes (scopeClose :: segments) = closes segments + 1 :=
  List.countP_cons_of_pos rfl

/-- Neither an opening nor a closing segment. -/
def IsPlain (segment : Segment) : Prop :=
  segment.isScopeOpen = false ∧ segment.isScopeClose = false

theorem opens_cons_of_isPlain {segment : Segment} (h : segment.IsPlain) (segments : List Segment) :
    opens (segment :: segments) = opens segments :=
  List.countP_cons_of_neg (ne_true_of_eq_false h.1)

theorem closes_cons_of_isPlain {segment : Segment} (h : segment.IsPlain) (segments : List Segment) :
    closes (segment :: segments) = closes segments :=
  List.countP_cons_of_neg (ne_true_of_eq_false h.2)

/-- The largest surplus of closing over opening segments in a prefix, or zero if there is none. -/
def strays (segments : List Segment) : Nat :=
  (segments.inits.map fun before => closes before - opens before).foldr max 0

/-- What is left of the opening segments, when all closing segments that are no strays have closed one. -/
def leftOpen (segments : List Segment) : Nat :=
  opens segments + strays segments - closes segments

/-- Every prefix has at least as many opening as closing segments, and all of them as many. -/
def IsBalanced (segments : List Segment) : Prop :=
  closes segments = opens segments ∧ ∀ before, before <+: segments → closes before ≤ opens before

/-! ## Open scopes -/

/-- The names of the open scopes behind a segment, the innermost first. -/
def openBehind (names : List String) : Segment → List String
  | literal _ => names
  | scopeOpen name => name :: names
  | scopeClose => names.tail
  | value _ _ => names

/-- The names of the scopes that some segments leave open, the innermost first. -/
def openScopes (segments : List Segment) : List String :=
  segments.foldl openBehind []

/-- The segments, each with the names of the scopes that are open where it stands; `names` are open before
all of them. -/
def places (names : List String) : List Segment → List (List String × Segment)
  | [] => []
  | segment :: segments => (names, segment) :: places (openBehind names segment) segments

theorem mem_places_iff {names inside : List String} {segment : Segment} {segments : List Segment} :
    (inside, segment) ∈ places names segments ↔
      ∃ before after, segments = before ++ segment :: after ∧ inside = before.foldl openBehind names := by
  induction segments generalizing names with
  | nil => simp [places]
  | cons first segments ih =>
      rw [places, List.mem_cons, ih]
      constructor
      · rintro (h | ⟨before, after, rfl, rfl⟩)
        · cases h
          exact ⟨[], segments, rfl, rfl⟩
        · exact ⟨first :: before, after, rfl, rfl⟩
      · rintro ⟨before, after, hsplit, rfl⟩
        cases before with
        | nil =>
            cases hsplit
            exact .inl rfl
        | cons other before =>
            cases hsplit
            exact .inr ⟨before, after, rfl, rfl⟩

/-- A closing segment where no scope is open. -/
def isStray (place : List String × Segment) : Bool :=
  place.1.isEmpty && place.2.isScopeClose

/-! ## Strays -/

/-- The strays of segments behind `depth` open scopes. -/
def straysBehind (depth : Nat) (segments : List Segment) : Nat :=
  (segments.inits.map fun before => closes before - opens before - depth).foldr max 0

theorem straysBehind_zero (segments : List Segment) : straysBehind 0 segments = strays segments := by
  rfl

theorem straysBehind_le_iff {depth n : Nat} {segments : List Segment} :
    straysBehind depth segments ≤ n ↔
      ∀ before, before <+: segments → closes before ≤ opens before + depth + n := by
  unfold straysBehind
  constructor
  · intro h before hbefore
    have hmem : closes before - opens before - depth ∈
        segments.inits.map fun before => closes before - opens before - depth :=
      List.mem_map_of_mem ((List.mem_inits before segments).mpr hbefore)
    have hle := List.le_max_of_le' 0 hmem le_rfl
    omega
  · intro h
    refine List.max_le_of_forall_le _ n ?_
    intro surplus hsurplus
    obtain ⟨before, hbefore, rfl⟩ := List.mem_map.mp hsurplus
    have hcount := h before ((List.mem_inits before segments).mp hbefore)
    omega

/-- The empty prefix has no surplus, so only the prefixes with the first segment count. -/
theorem straysBehind_cons_le_iff {depth n : Nat} {segment : Segment} {segments : List Segment} :
    straysBehind depth (segment :: segments) ≤ n ↔
      ∀ before, before <+: segments →
        closes (segment :: before) ≤ opens (segment :: before) + depth + n := by
  rw [straysBehind_le_iff]
  constructor
  · intro h before hbefore
    exact h (segment :: before) (List.cons_prefix_cons.mpr ⟨rfl, hbefore⟩)
  · intro h before hbefore
    rcases List.prefix_cons_iff.mp hbefore with rfl | ⟨rest, rfl, hrest⟩
    · exact Nat.zero_le _
    · exact h rest hrest

theorem straysBehind_scopeOpen (depth : Nat) (name : String) (segments : List Segment) :
    straysBehind depth (scopeOpen name :: segments) = straysBehind (depth + 1) segments := by
  refine eq_of_forall_ge_iff fun n => ?_
  rw [straysBehind_cons_le_iff, straysBehind_le_iff]
  refine forall₂_congr fun before _ => ?_
  rw [opens_cons_scopeOpen, closes_cons_scopeOpen]
  omega

theorem straysBehind_succ_scopeClose (depth : Nat) (segments : List Segment) :
    straysBehind (depth + 1) (scopeClose :: segments) = straysBehind depth segments := by
  refine eq_of_forall_ge_iff fun n => ?_
  rw [straysBehind_cons_le_iff, straysBehind_le_iff]
  refine forall₂_congr fun before _ => ?_
  rw [opens_cons_scopeClose, closes_cons_scopeClose]
  omega

theorem straysBehind_zero_scopeClose (segments : List Segment) :
    straysBehind 0 (scopeClose :: segments) = straysBehind 0 segments + 1 := by
  refine eq_of_forall_ge_iff fun n => ?_
  rw [straysBehind_cons_le_iff]
  cases n with
  | zero =>
      constructor
      · intro h
        -- the closing segment alone is a prefix with a surplus
        exact absurd (h [] (List.nil_prefix)) (by decide)
      · intro h
        omega
  | succ n =>
      rw [Nat.add_le_add_iff_right, straysBehind_le_iff]
      refine forall₂_congr fun before _ => ?_
      rw [opens_cons_scopeClose, closes_cons_scopeClose]
      omega

theorem straysBehind_of_isPlain {segment : Segment} (h : segment.IsPlain) (depth : Nat)
    (segments : List Segment) :
    straysBehind depth (segment :: segments) = straysBehind depth segments := by
  refine eq_of_forall_ge_iff fun n => ?_
  rw [straysBehind_cons_le_iff, straysBehind_le_iff]
  refine forall₂_congr fun before _ => ?_
  rw [opens_cons_of_isPlain h, closes_cons_of_isPlain h]

/-- The strays among segments that stand behind open scopes. -/
theorem countP_isStray_places (names : List String) (segments : List Segment) :
    (places names segments).countP isStray = straysBehind names.length segments := by
  induction segments generalizing names with
  | nil => simp [places, straysBehind, closes]
  | cons segment segments ih =>
      rw [places, List.countP_cons, ih]
      cases segment with
      | literal text =>
          rw [openBehind, straysBehind_of_isPlain ⟨rfl, rfl⟩]
          simp [isStray, isScopeClose]
      | value path format =>
          rw [openBehind, straysBehind_of_isPlain ⟨rfl, rfl⟩]
          simp [isStray, isScopeClose]
      | scopeOpen name =>
          rw [openBehind, straysBehind_scopeOpen]
          simp [isStray, isScopeClose]
      | scopeClose =>
          cases names with
          | nil =>
              rw [openBehind, List.tail_nil, List.length_nil, straysBehind_zero_scopeClose]
              rfl
          | cons name names =>
              rw [openBehind, List.tail_cons, List.length_cons, straysBehind_succ_scopeClose]
              rfl

/-! ## Scopes that stay open -/

/-- Opening segments open a scope each, and closing segments that are no strays close one each. -/
theorem length_foldl_openBehind (names : List String) (segments : List Segment) :
    (segments.foldl openBehind names).length + closes segments =
      names.length + opens segments + straysBehind names.length segments := by
  induction segments generalizing names with
  | nil => simp [straysBehind, opens, closes]
  | cons segment segments ih =>
      have hrest := ih (openBehind names segment)
      rw [List.foldl_cons]
      cases segment with
      | literal text =>
          have hplain : (literal text).IsPlain := ⟨rfl, rfl⟩
          rw [straysBehind_of_isPlain hplain, opens_cons_of_isPlain hplain,
            closes_cons_of_isPlain hplain]
          exact hrest
      | value path format =>
          have hplain : (value path format).IsPlain := ⟨rfl, rfl⟩
          rw [straysBehind_of_isPlain hplain, opens_cons_of_isPlain hplain,
            closes_cons_of_isPlain hplain]
          exact hrest
      | scopeOpen name =>
          rw [straysBehind_scopeOpen, opens_cons_scopeOpen, closes_cons_scopeOpen]
          simp only [openBehind, List.length_cons] at hrest ⊢
          omega
      | scopeClose =>
          rw [opens_cons_scopeClose, closes_cons_scopeClose]
          cases names with
          | nil =>
              simp only [openBehind, List.tail_nil, List.length_nil] at hrest ⊢
              rw [straysBehind_zero_scopeClose]
              omega
          | cons name names =>
              simp only [openBehind, List.tail_cons, List.length_cons] at hrest ⊢
              rw [straysBehind_succ_scopeClose]
              omega

/-- All closing segments but the strays close something that is open. -/
theorem closes_le_opens_add_strays (segments : List Segment) :
    closes segments ≤ opens segments + strays segments := by
  have hle : straysBehind 0 segments ≤ strays segments := le_rfl
  exact straysBehind_le_iff.mp hle segments List.prefix_rfl

theorem leftOpen_eq (segments : List Segment) :
    (leftOpen segments : Int) = opens segments - closes segments + strays segments := by
  have hle := closes_le_opens_add_strays segments
  unfold leftOpen
  omega

theorem length_openScopes (segments : List Segment) :
    (openScopes segments).length = leftOpen segments := by
  have hlength := length_foldl_openBehind [] segments
  rw [List.length_nil, straysBehind_zero] at hlength
  unfold openScopes leftOpen
  omega

/-- There are neither strays nor scopes left open in balanced segments, and in no others. -/
theorem isBalanced_iff {segments : List Segment} :
    IsBalanced segments ↔ strays segments = 0 ∧ leftOpen segments = 0 := by
  have hle := closes_le_opens_add_strays segments
  have hstrays : strays segments = 0 ↔
      ∀ before, before <+: segments → closes before ≤ opens before := by
    rw [← straysBehind_zero, ← Nat.le_zero, straysBehind_le_iff]
    rfl
  unfold IsBalanced leftOpen
  rw [← hstrays]
  omega

end Segment

end Stencil
