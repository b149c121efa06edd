import Stencil.Proofs.Journal.Outcome
import Stencil.Render

/-!
# Blocks

Rendering keeps a stack of contexts and reads the segments one after the other. Here the segments are first
put together to blocks: a scope is one block with all the blocks up to the segment that closes it
(`Block.forest`). Blocks are evaluated by recursion, without a stack: a scope evaluates its body in the
context that it opens, and nothing of that context is left behind it (`Block.evalAll`).

* `Block.writeAll_forest`, `Block.forest_writeAll`: the blocks of some segments are those whose segments,
  written out, are the given ones after balancing, that is without the closing segments that close nothing
  and with a closing segment at the end for every scope that is still open.
* `Lookup.render_eq_evalAll`: rendering and evaluating end in the same text or in the same fault.
-/

namespace Stencil

/-- A segment that stands for itself, or a scope with all that is in it. -/
inductive Block
  | literal (text : String)
  | value (path : List String) (format : Option String)
  | scope (name : String) (body : List Block)

namespace Block

/-! ## Pairing -/

/-- The blocks up to the first closing segment that closes none of them, and the blocks behind each of the
closing segments of this kind. A scope is closed by the first of them that follows it, or else at the end. -/
def pair : List Segment → List Block × List (List Block)
  | [] => ([], [])
  | .literal text :: segments => (literal text :: (pair segments).1, (pair segments).2)
  | .value path format :: segments => (value path format :: (pair segments).1, (pair segments).2)
  | .scopeClose :: segments => ([], (pair segments).1 :: (pair segments).2)
  | .scopeOpen name :: segments =>
      match pair segments with
      | (body, []) => ([scope name body], [])
      | (body, next :: outer) => (scope name body :: next, outer)

/-- The blocks of some segments. Closing segments that close nothing are ignored. -/
def forest (segments : List Segment) : List Block :=
  (pair segments).1 ++ (pair segments).2.flatten

/-- The segments behind `depth` open scopes, with every scope closed and without the closing segments that
close nothing. -/
def balance : Nat → List Segment → List Segment
  | depth, [] => List.replicate depth .scopeClose
  | depth, .scopeOpen name :: segments => .scopeOpen name :: balance (depth + 1) segments
  | 0, .scopeClose :: segments => balance 0 segments
  | depth + 1, .scopeClose :: segments => .scopeClose :: balance depth segments
  | depth, segment :: segments => segment :: balance depth segments

mutual

/-- The segments of a block. -/
def write : Block → List Segment
  | literal text => [.literal text]
  | value path format => [.value path format]
  | scope name body => .scopeOpen name :: (writeAll body ++ [.scopeClose])

def writeAll : List Block → List Segment
  | [] => []
  | block :: blocks => write block ++ writeAll blocks

end

theorem writeAll_append (blocks others : List Block) :
    writeAll (blocks ++ others) = writeAll blocks ++ writeAll others := by
  induction blocks with
  | nil =>
      rfl
  | cons block blocks ih =>
      simp [writeAll, ih]

/-- The segments of the blocks on all levels, with the closing segments between the first `depth + 1` of
them. What is still open is closed at the end. -/
def writeLevels : Nat → List Block → List (List Block) → List Segment
  | depth, blocks, [] => writeAll blocks ++ List.replicate depth .scopeClose
  | 0, blocks, next :: outer => writeAll blocks ++ writeLevels 0 next outer
  | depth + 1, blocks, next :: outer => writeAll blocks ++ .scopeClose :: writeLevels depth next outer

theorem writeLevels_cons (depth : Nat) (block : Block) (blocks : List Block)
    (outer : List (List Block)) :
    writeLevels depth (block :: blocks) outer = write block ++ writeLevels depth blocks outer := by
  cases outer with
  | nil =>
      simp [writeLevels, writeAll]
  | cons next outer =>
      cases depth with
      | zero => simp [writeLevels, writeAll]
      | succ depth => simp [writeLevels, writeAll]

theorem writeLevels_zero (blocks : List Block) (outer : List (List Block)) :
    writeLevels 0 blocks outer = writeAll (blocks ++ outer.flatten) := by
  induction outer generalizing blocks with
  | nil =>
      simp [writeLevels]
  | cons next outer ih =>
      simp [writeLevels, ih, writeAll_append]

/-- Balancing behind `depth` open scopes writes the blocks on all levels. -/
theorem balance_eq_writeLevels (depth : Nat) (segments : List Segment) :
    balance depth segments = writeLevels depth (pair segments).1 (pair segments).2 := by
  induction segments generalizing depth with
  | nil =>
      simp [balance, pair, writeLevels, writeAll]
  | cons segment segments ih =>
      cases segment with
      | literal text =>
          rw [pair, writeLevels_cons]
          simp [balance, write, ih]
      | value path format =>
          rw [pair, writeLevels_cons]
          simp [balance, write, ih]
      | scopeClose =>
          cases depth with
          | zero => simp [balance, pair, writeLevels, writeAll, ih]
          | succ depth => simp [balance, pair, writeLevels, writeAll, ih]
      | scopeOpen name =>
          rw [balance, ih, pair]
          rcases pair segments with ⟨body, _ | ⟨next, outer⟩⟩
          · simp only [writeLevels_cons]
            simp [writeLevels, writeAll, write, List.replicate_succ]
          · simp only [writeLevels_cons]
            simp [writeLevels, write]

/-- The blocks of some segments are written as the segments after balancing. -/
theorem writeAll_forest (segments : List Segment) :
    writeAll (forest segments) = balance 0 segments := by
  rw [balance_eq_writeLevels, writeLevels_zero]
  rfl

mutual

theorem pair_write_append : ∀ (block : Block) (segments : List Segment),
    pair (write block ++ segments) = (block :: (pair segments).1, (pair segments).2)
  | literal text, segments => by
      rfl
  | value path format, segments => by
      rfl
  | scope name body, segments => by
      have hbody : pair (writeAll body ++ .scopeClose :: segments) =
          (body, (pair segments).1 :: (pair segments).2) := by
        rw [pair_writeAll_append body (.scopeClose :: segments), pair, List.append_nil]
      rw [write, List.cons_append, List.append_assoc, List.singleton_append, pair, hbody]

theorem pair_writeAll_append : ∀ (blocks : List Block) (segments : List Segment),
    pair (writeAll blocks ++ segments) = (blocks ++ (pair segments).1, (pair segments).2)
  | [], segments => by
      rfl
  | block :: blocks, segments => by
      rw [writeAll, List.append_assoc, pair_write_append block, pair_writeAll_append blocks]
      rfl

end

/-- Different blocks are written as different segments, from which they are read again. -/
theorem forest_writeAll (blocks : List Block) : forest (writeAll blocks) = blocks := by
  have hpair := pair_writeAll_append blocks []
  rw [List.append_nil] at hpair
  simp [forest, hpair, pair]

example : forest [.scopeClose, .scopeOpen "a", .scopeOpen "b", .scopeClose, .literal "x", .scopeClose,
    .scopeClose, .literal "y", .scopeOpen "c", .literal "z"] =
      [.scope "a" [.scope "b" [], .literal "x"], .literal "y", .scope "c" [.literal "z"]] := by
  rfl

/-! ## Evaluation -/

/-- The texts of two parts, one behind the other. If both parts end in a fault, the first fault counts. -/
def follow (first next : Except Fault String) : Except Fault String := do
  let text ← first
  let more ← next
  return text ++ more

theorem follow_ok_empty (next : Except Fault String) : follow (.ok "") next = next := by
  cases next with
  | error fault => rfl
  | ok text => simp [follow]

theorem ok_empty_follow (first : Except Fault String) : follow first (.ok "") = first := by
  cases first with
  | error fault => rfl
  | ok text => simp [follow]

theorem follow_assoc (first next last : Except Fault String) :
    follow (follow first next) last = follow first (follow next last) := by
  cases first with
  | error fault => rfl
  | ok text =>
      cases next with
      | error fault => rfl
      | ok more =>
          cases last with
          | error fault => rfl
          | ok rest => simp [follow, String.append_assoc]

theorem join_cons_eq_follow (first : Except Fault String) (texts : Except Fault (List String)) :
    (String.join <$> do
      let text ← first
      let more ← texts
      pure (text :: more)) = follow first (String.join <$> texts) := by
  cases first with
  | error fault => rfl
  | ok text =>
      cases texts with
      | error fault => rfl
      | ok more => simp [follow]

section Evaluation

variable (look : Lookup) (voice : Voice)

/-- The context inside a scope: the member on which the scope opens, or nothing if there is none. -/
def contextOf (context : Value) (name : String) : Except Fault Value := do
  match ← (look context name).result voice with
  | .ok member => .ok member
  | .error _ => .ok .nothing

/-- The text of a value token in its context. It is empty if the path leads nowhere. -/
def textOf (context : Value) (path : List String) (format : Option String) :
    Except Fault String := do
  match ← (look.walk context path).result voice with
  | .ok member => (member.showWith format).result voice
  | .error _ => .ok ""

mutual

/-- The text of a block in a context. -/
def eval (context : Value) : Block → Except Fault String
  | literal text => .ok text
  | value path format => textOf look voice context path format
  | scope name body => do
      let inner ← contextOf look voice context name
      evalAll inner body

/-- The text of some blocks, all in the same context. -/
def evalAll (context : Value) : List Block → Except Fault String
  | [] => .ok ""
  | block :: blocks => follow (eval context block) (evalAll context blocks)

end

/-- The text of the blocks behind some closing segments: each of these goes back to the next of the outer
contexts, and stays in the last one when none is left. -/
def evalOuter : Value → List Value → List (List Block) → Except Fault String
  | _, _, [] => .ok ""
  | context, [], blocks :: outer =>
      follow (evalAll look voice context blocks) (evalOuter context [] outer)
  | _, enclosing :: contexts, blocks :: outer =>
      follow (evalAll look voice enclosing blocks) (evalOuter enclosing contexts outer)

end Evaluation

variable {look : Lookup} {voice : Voice}

theorem evalAll_append (context : Value) (blocks others : List Block) :
    evalAll look voice context (blocks ++ others) =
      follow (evalAll look voice context blocks) (evalAll look voice context others) := by
  induction blocks with
  | nil =>
      rw [List.nil_append, evalAll, follow_ok_empty]
  | cons block blocks ih =>
      rw [List.cons_append, evalAll, evalAll, ih, follow_assoc]

theorem evalOuter_nil (context : Value) (outer : List (List Block)) :
    evalOuter look voice context [] outer = evalAll look voice context outer.flatten := by
  induction outer with
  | nil =>
      rfl
  | cons blocks outer ih =>
      rw [evalOuter, ih, List.flatten_cons, evalAll_append]

end Block

namespace Lookup

open Block (follow follow_assoc follow_ok_empty ok_empty_follow join_cons_eq_follow contextOf textOf eval evalAll
  evalOuter pair forest)

variable (look : Lookup) (voice : Voice)

theorem result_enter (context : Value) (name : String) :
    (look.enter context name).result voice = contextOf look voice context name := by
  unfold enter contextOf
  rw [Noted.result_bind]
  congr 1
  funext found
  cases found with
  | error absence => simp
  | ok value => rfl

theorem result_showPath (context : Value) (path : List String) (format : Option String) :
    (look.showPath context path format).result voice = textOf look voice context path format := by
  unfold showPath textOf
  rw [Noted.result_bind]
  congr 1
  funext found
  cases found with
  | error absence => simp
  | ok value => rfl

/-- Rendering inside some contexts evaluates the blocks on all levels. -/
theorem result_renderIn (context : Value) (contexts : List Value) (segments : List Segment) :
    String.join <$> (look.renderIn context contexts segments).result voice =
      follow (evalAll look voice context (pair segments).1)
        (evalOuter look voice context contexts (pair segments).2) := by
  induction segments generalizing context contexts with
  | nil =>
      unfold renderIn
      split
      · rfl
      · rfl
  | cons segment segments ih =>
      cases segment with
      | literal text =>
          rw [pair, evalAll, follow_assoc, ← ih, eval, ← join_cons_eq_follow, renderIn,
            Noted.result_bind]
          rfl
      | value path format =>
          rw [pair, evalAll, follow_assoc, ← ih, eval, ← result_showPath, ← join_cons_eq_follow,
            renderIn]
          simp only [Noted.result_bind]
          rfl
      | scopeClose =>
          cases contexts with
          | nil =>
              rw [pair, evalAll, follow_ok_empty, evalOuter, ← ih, renderIn, Noted.result_bind]
              rfl
          | cons enclosing contexts =>
              rw [pair, evalAll, follow_ok_empty, evalOuter, ← ih, renderIn]
      | scopeOpen name =>
          -- what follows the scope's own level is evaluated in the context around it
          have hscope : ∀ inner : Value,
              String.join <$> (look.renderIn inner (context :: contexts) segments).result voice =
                follow (evalAll look voice inner (pair segments).1)
                  (evalOuter look voice inner (context :: contexts) (pair segments).2) :=
            fun inner => ih inner (context :: contexts)
          rw [renderIn, Noted.result_bind, result_enter, pair]
          rcases hpair : pair segments with ⟨body, _ | ⟨next, outer⟩⟩
          · simp only [hpair, evalOuter, ok_empty_follow] at hscope ⊢
            rw [evalAll, evalAll, ok_empty_follow, eval]
            cases contextOf look voice context name with
            | error fault => rfl
            | ok inner => exact hscope inner
          · simp only [hpair, evalOuter] at hscope ⊢
            rw [evalAll, follow_assoc, eval]
            cases contextOf look voice context name with
            | error fault => rfl
            | ok inner => exact hscope inner

/-- For all segments, balanced or not, every way to look up members and every data source: rendering gives
the text of the blocks of the segments, evaluated by recursion, or ends in the same fault. The blocks are
the only ones that are written as the balanced segments. -/
theorem render_eq_evalAll (segments : List Segment) (source : Value) :
    Block.writeAll (forest segments) = Block.balance 0 segments ∧
      (∀ blocks, Block.writeAll blocks = Block.balance 0 segments → blocks = forest segments) ∧
      (look.render segments source).result voice = evalAll look voice source (forest segments) := by
  refine ⟨Block.writeAll_forest segments, ?_, ?_⟩
  · intro blocks hblocks
    rw [← Block.writeAll_forest] at hblocks
    rw [← Block.forest_writeAll blocks, hblocks, Block.forest_writeAll]
  calc
    (look.render segments source).result voice
        = String.join <$> (look.renderIn source [] segments).result voice := by
          rw [render, Noted.result_bind]
          rfl
    _ = follow (evalAll look voice source (pair segments).1)
          (evalOuter look voice source [] (pair segments).2) := by
          rw [result_renderIn]
    _ = evalAll look voice source (forest segments) := by
          rw [Block.evalOuter_nil, forest, Block.evalAll_append]

end Lookup

end Stencil
