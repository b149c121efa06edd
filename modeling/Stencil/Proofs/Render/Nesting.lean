import Stencil.Proofs.Render.Blocks

/-!
# Nested scopes and dotted paths

A value that is shown inside scopes, one in the other, is found on the same way as a value at the end of a
dotted path. The two ways differ where a member is missing: a scope opens on nothing and goes on, a path
stops. They come to the same text as long as the lookup finds nothing in nothing and ends in no fault there
(`Lookup.FailsOnNothing`), which all lookups in mappings, in attributes and in chains do.

* `Lookup.textOf_cons`: the first name of a path is as good as a scope around the rest of the path.
* `Lookup.render_nested_eq_dotted`: nested scopes and dotted paths have the same text or the same fault.
-/

namespace Stencil

namespace Block

/-- A block inside scopes with these names, of which the first is the outermost. -/
def nest (names : List String) (block : Block) : Block :=
  names.foldr (fun name inner => scope name [inner]) block

/-- Nested scopes are written as their opening segments, what is inside, and as many closing segments. -/
theorem writeAll_nest_value (names path : List String) (format : Option String) :
    writeAll [nest names (value path format)] =
      names.map .scopeOpen ++ .value path format :: List.replicate names.length .scopeClose := by
  induction names with
  | nil => rfl
  | cons name names ih =>
      have hinner : writeAll [nest (name :: names) (value path format)] =
          .scopeOpen name :: (writeAll [nest names (value path format)] ++ [.scopeClose]) := by
        simp [nest, writeAll, write]
      rw [hinner, ih, List.length_cons, List.replicate_succ']
      simp

end Block

namespace Lookup

open Block (follow follow_ok_empty ok_empty_follow contextOf textOf eval evalAll evalOuter pair nest)

/-- Nothing is found in nothing, and looking there ends in no fault. -/
def FailsOnNothing (look : Lookup) : Prop :=
  ∀ (name : String) (voice : Voice), ∃ absence, (look .nothing name).result voice = .ok (.error absence)

section Paths

variable {look : Lookup} {voice : Voice}

/-- What a path leads to does not depend on the names that were walked before it. -/
theorem toOption_walkFrom (walked others : List String) (current : Value) (path : List String) :
    Except.toOption <$> (look.walkFrom walked current path).result voice =
      Except.toOption <$> (look.walkFrom others current path).result voice := by
  induction path generalizing walked others current with
  | nil => rfl
  | cons name path ih =>
      simp only [walkFrom, Noted.result_bind]
      cases (look current name).result voice with
      | error fault => rfl
      | ok found =>
          cases found with
          | error absence => rfl
          | ok value => exact ih (walked ++ [name]) (others ++ [name]) value

/-- The text of a value token depends on the path as far as it leads to a value or not. -/
theorem textOf_eq_of_walked (walked : List String) (context : Value) {path : List String}
    (hpath : path ≠ []) (format : Option String) :
    textOf look voice context path format =
      (Except.toOption <$> (look.walkFrom walked context path).result voice) >>= fun member =>
        match member with
        | some member => (member.showWith format).result voice
        | none => .ok "" := by
  rw [toOption_walkFrom walked [], textOf, walk_of_ne_nil context hpath]
  rcases (look.walkFrom [] context path).result voice with fault | absence | member
  · rfl
  · rfl
  · rfl

/-- From nothing a path leads nowhere. -/
theorem textOf_nothing (hnothing : look.FailsOnNothing) {path : List String} (hpath : path ≠ [])
    (format : Option String) : textOf look voice .nothing path format = .ok "" := by
  cases path with
  | nil => contradiction
  | cons name path =>
      obtain ⟨absence, habsence⟩ := hnothing name voice
      rw [textOf_eq_of_walked [] .nothing hpath, walkFrom, Noted.result_bind, habsence]
      rfl

/-- The first name of a path is as good as a scope around the rest of the path. -/
theorem textOf_cons (hnothing : look.FailsOnNothing) (context : Value) (name : String)
    {path : List String} (hpath : path ≠ []) (format : Option String) :
    textOf look voice context (name :: path) format =
      contextOf look voice context name >>= fun inner => textOf look voice inner path format := by
  rw [textOf_eq_of_walked [] context (List.cons_ne_nil name path), walkFrom, Noted.result_bind,
    contextOf]
  cases (look context name).result voice with
  | error fault => rfl
  | ok found =>
      cases found with
      | error absence =>
          -- the path stops here; the scope opens on nothing, and the rest of the path is tried from there
          exact (textOf_nothing hnothing hpath format).symm
      | ok inner => exact (textOf_eq_of_walked [name] inner hpath format).symm

/-- A value inside nested scopes is evaluated as the value at the end of the dotted path. -/
theorem eval_nest_value (hnothing : look.FailsOnNothing) (names : List String) {path : List String}
    (hpath : path ≠ []) (format : Option String) (context : Value) :
    eval look voice context (nest names (.value path format)) =
      textOf look voice context (names ++ path) format := by
  induction names generalizing context with
  | nil => rfl
  | cons name names ih =>
      have hrest : names ++ path ≠ [] := List.append_ne_nil_of_right_ne_nil names hpath
      calc
        eval look voice context (nest (name :: names) (.value path format))
            = contextOf look voice context name >>= fun inner =>
                evalAll look voice inner [nest names (.value path format)] := by
              rw [nest, List.foldr_cons, eval]
              rfl
        _ = contextOf look voice context name >>= fun inner =>
                textOf look voice inner (names ++ path) format := by
              simp only [evalAll, ok_empty_follow, ih]
        _ = textOf look voice context (name :: names ++ path) format := by
              rw [List.cons_append, textOf_cons hnothing context name hrest]

/-- A single block is rendered as it is evaluated. -/
theorem result_render_writeAll_singleton (block : Block) (source : Value) :
    (look.render (Block.writeAll [block]) source).result voice = eval look voice source block := by
  have hpair : pair (Block.writeAll [block]) = ([block], []) := by
    have h := Block.pair_writeAll_append [block] []
    rwa [List.append_nil] at h
  calc
    (look.render (Block.writeAll [block]) source).result voice
        = String.join <$> (look.renderIn source [] (Block.writeAll [block])).result voice := by
          rw [render, Noted.result_bind]
          rfl
    _ = follow (evalAll look voice source [block]) (evalOuter look voice source [] []) := by
          rw [result_renderIn, hpair]
    _ = eval look voice source block := by
          rw [evalOuter, ok_empty_follow, evalAll, evalAll, ok_empty_follow]

end Paths

end Lookup

namespace Resolver

theorem failsOnNothing_entries : entries.lookup.FailsOnNothing := by
  intro name voice
  refine ⟨.noMember "NoneType" name, ?_⟩
  rw [lookup]
  rfl

theorem failsOnNothing_attributes : attributes.lookup.FailsOnNothing := by
  intro name voice
  refine ⟨.noMember "NoneType" name, ?_⟩
  rw [lookup]
  rfl

/-- A chain reads nothing from nothing, whatever its parts do. -/
theorem failsOnNothing_chain (parts : List Resolver) : (chain parts).lookup.FailsOnNothing := by
  intro name voice
  refine ⟨.ofNothing name, ?_⟩
  rw [lookup_chain_nothing, Noted.result_pure]

end Resolver

namespace Lookup

/-- For all names, every path and format, every data source, and every lookup that finds nothing in nothing
without a fault: a value inside scopes on these names, one in the other, has the same text as the value whose
path has these names in front, or ends in the same fault. Lookups in mappings, in attributes and in chains of
any parts are such lookups. -/
theorem render_nested_eq_dotted :
    Resolver.entries.lookup.FailsOnNothing ∧ Resolver.attributes.lookup.FailsOnNothing ∧
      (∀ parts, (Resolver.chain parts).lookup.FailsOnNothing) ∧
      ∀ look : Lookup, look.FailsOnNothing →
        ∀ (names path : List String), path ≠ [] →
          ∀ (format : Option String) (source : Value) (voice : Voice),
            (look.render (names.map .scopeOpen ++ .value path format ::
                List.replicate names.length .scopeClose) source).result voice =
              (look.render [.value (names ++ path) format] source).result voice := by
  refine ⟨Resolver.failsOnNothing_entries, Resolver.failsOnNothing_attributes,
    Resolver.failsOnNothing_chain, ?_⟩
  intro look hnothing names path hpath format source voice
  have hdotted : Block.writeAll [.value (names ++ path) format] =
      [.value (names ++ path) format] := rfl
  calc
    (look.render (names.map .scopeOpen ++ .value path format ::
        List.replicate names.length .scopeClose) source).result voice
        = Block.eval look voice source (Block.nest names (.value path format)) := by
          rw [← Block.writeAll_nest_value, result_render_writeAll_singleton]
    _ = Block.textOf look voice source (names ++ path) format :=
          eval_nest_value hnothing names hpath format source
    _ = (look.render [.value (names ++ path) format] source).result voice := by
          rw [← hdotted, result_render_writeAll_singleton, Block.eval]

/-- The name of an owner is shown in both spellings; behind a scope that is missing, both show nothing. -/
theorem render_nested_eq_dotted_of_missing_scope :
    let owner : Value := .mapping false [(.text "name", .text "Ada")]
    let source : Value := .mapping false [(.text "shop", .mapping false [(.text "owner", owner)])]
    let look := Resolver.standard.lookup
    look.FailsOnNothing ∧ ["name"] ≠ [] ∧ ["name", "size"] ≠ [] ∧
      ((look.render [.scopeOpen "shop", .scopeOpen "owner", .value ["name"] none, .scopeClose, .scopeClose]
            source).result {} =
          (look.render [.value ["shop", "owner", "name"] none] source).result {} ∧
        (look.render [.value ["shop", "owner", "name"] none] source).result {} = .ok "Ada") ∧
      (look.render [.scopeOpen "shop", .scopeOpen "tenant", .value ["name", "size"] none, .scopeClose,
            .scopeClose] source).result {} =
          (look.render [.value ["shop", "tenant", "name", "size"] none] source).result {} ∧
        (look.render [.value ["shop", "tenant", "name", "size"] none] source).result {} = .ok "" := by
  intro owner source look
  have hnothing : look.FailsOnNothing := Resolver.failsOnNothing_chain _
  have hname : ["name"] ≠ [] := List.cons_ne_nil _ _
  have hsize : ["name", "size"] ≠ [] := List.cons_ne_nil _ _
  have hshown := render_nested_eq_dotted.2.2.2 look hnothing ["shop", "owner"] ["name"] hname none source {}
  have hmissing := render_nested_eq_dotted.2.2.2 look hnothing ["shop", "tenant"] ["name", "size"] hsize none
    source {}
  refine ⟨hnothing, hname, hsize, ⟨hshown, ?_⟩, hmissing, ?_⟩
  · rfl
  · rfl

end Lookup

end Stencil
