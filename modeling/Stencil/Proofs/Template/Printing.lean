import Stencil.Proofs.Template.Parse
import Stencil.Proofs.Text.Front

/-!
# Printing segments

Segments can be written as the template that they are read from (`Segment.print`). This is possible for the
segments that a grammar can tell apart (`Segment.IsCanonical`): literals are joined and hold no token, names
and formats hold none of the characters that end them, and no token holds a mark. Printing such a list and
reading it again gives the same list (`Grammar.parse_print`).

The proof follows the way of reading: the body of a printed token is read as the token
(`bodySegment?_body`), a printed token is the first one of the text from its literal on (`cut_printed`), and so
a scan leaves the atoms of the segments (`atoms_scan_print`).
-/

namespace Stencil

namespace Segment

variable (opening closing : Char) (keyword : String)

/-- The text of a literal, and the text between the marks of another segment. -/
def body : Segment → String
  | literal text => text
  | scopeOpen name => keyword ++ " " ++ name
  | scopeClose => "/" ++ keyword
  | value path none => dotted path
  | value path (some format) => dotted path ++ " \"" ++ format ++ "\""

def written : Segment → String
  | literal text => text
  | segment => String.singleton opening ++ segment.body keyword ++ String.singleton closing

/-- A template for some segments. -/
def print (segments : List Segment) : String :=
  String.join (segments.map (written opening closing keyword))

/-- A text in which no opening mark is followed by a closing mark, be it at once or later. -/
def IsUnmarked (text : List Char) : Prop :=
  ∀ s e : Nat, s < e → text[s]? = some opening → text[e]? ≠ some closing

/-- What a segment must satisfy to be read as it was written. -/
def IsPrintable : Segment → Prop
  | literal text => IsUnmarked opening closing text.toList
  | scopeOpen name => name ≠ "" ∧ ∀ c, c ∈ name.toList → isScopeNameChar c = true
  | scopeClose => True
  | value path format =>
      path ≠ [] ∧ (∀ name, name ∈ path → ∀ c, c ∈ name.toList → isScopeNameChar c = true) ∧
        dotted path ≠ "" ∧ (format = none → dotted path ≠ "/" ++ keyword) ∧
        ∀ text, format = some text → quoteMark ∉ text.toList

/-- Segments that can be told apart in a template. -/
structure IsCanonical (segments : List Segment) : Prop where
  joined : IsJoined segments
  printable : ∀ s, s ∈ segments → s.IsPrintable opening closing keyword
  bare : ∀ s, s ∈ segments → s.isLiteral = false →
    opening ∉ (s.body keyword).toList ∧ closing ∉ (s.body keyword).toList

variable {opening closing : Char} {keyword : String}

theorem isUnmarked_nil : IsUnmarked opening closing [] := by
  intro s e _ hs
  cases hs

theorem written_of_not_literal {s : Segment} (hs : s.isLiteral = false) :
    (s.written opening closing keyword).toList =
      opening :: ((s.body keyword).toList ++ [closing]) := by
  cases s with
  | literal text => cases hs
  | _ => simp [written]

theorem print_cons (s : Segment) (segments : List Segment) :
    (print opening closing keyword (s :: segments)).toList =
      (s.written opening closing keyword).toList ++
        (print opening closing keyword segments).toList := by
  simp [print]

end Segment

/-! ## Bodies of tokens -/

theorem splitAtPoints_of_no_point {part : List Char} (h : '.' ∉ part) :
    splitAtPoints part = [part] := by
  induction part with
  | nil => rfl
  | cons c part ih =>
      rw [List.mem_cons, not_or] at h
      have hc : c ≠ '.' := fun heq => h.1 heq.symm
      simp [splitAtPoints, hc, ih h.2]

theorem splitAtPoints_append_point {part : List Char} (h : '.' ∉ part) (text : List Char) :
    splitAtPoints (part ++ '.' :: text) = part :: splitAtPoints text := by
  induction part with
  | nil =>
      simp [splitAtPoints]
  | cons c part ih =>
      rw [List.mem_cons, not_or] at h
      have hc : c ≠ '.' := fun heq => h.1 heq.symm
      simp [splitAtPoints, hc, ih h.2]

/-- A dotted path is split into its names again. -/
theorem splitAtPoints_dotted {path : List String} (hne : path ≠ [])
    (h : ∀ name, name ∈ path → '.' ∉ name.toList) :
    (splitAtPoints (Segment.dotted path).toList).map String.ofList = path := by
  unfold Segment.dotted
  induction path with
  | nil => exact absurd rfl hne
  | cons name path ih =>
      have hname : '.' ∉ name.toList := h name List.mem_cons_self
      cases path with
      | nil =>
          simp [splitAtPoints_of_no_point hname]
      | cons next path =>
          have hrest := ih (List.cons_ne_nil _ _) fun other hother =>
            h other (List.mem_cons_of_mem _ hother)
          rw [String.intercalate_cons_cons]
          have hpoint : ((name ++ "." ++ ".".intercalate (next :: path)).toList) =
              name.toList ++ '.' :: (".".intercalate (next :: path)).toList := by
            simp
          rw [hpoint, splitAtPoints_append_point hname, List.map_cons, hrest, String.ofList_toList]

/-- The characters of a dotted path are those of its names, and points. -/
theorem isPathChar_of_mem_dotted {path : List String}
    (h : ∀ name, name ∈ path → ∀ c, c ∈ name.toList → isScopeNameChar c = true) {c : Char}
    (hc : c ∈ (Segment.dotted path).toList) : isPathChar c = true := by
  unfold Segment.dotted at hc
  induction path with
  | nil => simp at hc
  | cons name path ih =>
      have hname : ∀ c, c ∈ name.toList → isPathChar c = true := by
        intro c hc
        have hscope := h name List.mem_cons_self c hc
        simp only [isScopeNameChar, Bool.and_eq_true] at hscope
        simp only [isPathChar, Bool.and_eq_true]
        exact ⟨hscope.1.1, hscope.2⟩
      cases path with
      | nil =>
          rw [String.intercalate_singleton] at hc
          exact hname c hc
      | cons next path =>
          rw [String.intercalate_cons_cons] at hc
          simp only [String.toList_append, List.mem_append] at hc
          rcases hc with (hc | hc) | hc
          · exact hname c hc
          · rw [List.mem_singleton.mp hc]
            decide
          · refine ih ?_ hc
            intro other hother
            exact h other (List.mem_cons_of_mem _ hother)

/-- A path and what follows it, from a blank on, are read as the path and the format. -/
theorem readValue_dotted {path : List String} {rest : List Char} (hne : path ≠ [])
    (hnames : ∀ name, name ∈ path → ∀ c, c ∈ name.toList → isScopeNameChar c = true)
    (hdotted : Segment.dotted path ≠ "")
    (hrest : ∀ c, rest.head? = some c → isPathChar c = false) :
    readValue ((Segment.dotted path).toList ++ rest) =
      .segment (.value path ((readFormat? rest).map String.ofList)) := by
  have hchars : ∀ c, c ∈ (Segment.dotted path).toList → isPathChar c = true :=
    fun c => isPathChar_of_mem_dotted hnames
  have hsome : (Segment.dotted path).toList ≠ [] := by
    rwa [ne_eq, String.toList_eq_nil_iff]
  have hstripped : Text.dropBlanks ((Segment.dotted path).toList ++ rest) =
      (Segment.dotted path).toList ++ rest := by
    obtain ⟨c, more, hc⟩ := List.exists_cons_of_ne_nil hsome
    have hpath := hchars c (by rw [hc]; exact List.mem_cons_self)
    simp only [isPathChar, Bool.and_eq_true, Bool.not_eq_true'] at hpath
    rw [hc, List.cons_append, Text.dropBlanks_cons_of_not_blank hpath.1]
  have hsplit : (splitAtPoints (Segment.dotted path).toList).map String.ofList = path := by
    refine splitAtPoints_dotted hne ?_
    intro name hname hpoint
    have hscope := hnames name hname '.' hpoint
    simp [isScopeNameChar] at hscope
  obtain ⟨htake, hdrop⟩ := Text.takeWhile_dropWhile_append hchars hrest
  unfold readValue
  simp [hstripped, htake, hdrop, hsplit, hdotted]

theorem readFormat?_quoted {format : List Char} (h : quoteMark ∉ format) :
    readFormat? (' ' :: quoteMark :: (format ++ [quoteMark])) = some format := by
  have hchars : ∀ c, c ∈ format → (!decide (c = quoteMark)) = true := by
    intro c hc
    have hne : c ≠ quoteMark := by
      rintro rfl
      exact h hc
    simp [hne]
  have hblank : ' ' ≠ quoteMark := by decide
  simp [readFormat?, hblank, List.takeWhile_append_of_pos hchars]

namespace Grammar

variable {g : Grammar} {opening closing : Char} {keyword : String}

/-- A keyword without blanks opens a scope on the name behind it. -/
theorem scopeName?_name (hkeyword : g.keyword = keyword.toList) {name : List Char} (hne : name ≠ [])
    (hname : ∀ c, c ∈ name → isScopeNameChar c = true) :
    g.scopeName? (keyword.toList ++ ' ' :: name) = some name := by
  have hstripped : Text.dropBlanks (' ' :: name) = name := by
    rw [Text.dropBlanks_cons_of_blank (by decide)]
    obtain ⟨c, rest, rfl⟩ := List.exists_cons_of_ne_nil hne
    have hc := hname c List.mem_cons_self
    simp only [isScopeNameChar, Bool.and_eq_true, Bool.not_eq_true'] at hc
    exact Text.dropBlanks_cons_of_not_blank hc.1.1 rest
  have htake : name.takeWhile isScopeNameChar = name := List.takeWhile_eq_self_iff.mpr hname
  have hblank : Text.isBlank ' ' = true := by decide
  simp [scopeName?, hkeyword, hstripped, htake, hblank, hne]

theorem isBlank_of_mem_keyword (hvalid : isKeyword keyword = true) {c : Char}
    (hc : c ∈ keyword.toList) : Text.isBlank c = false := by
  simp only [isKeyword, Bool.and_eq_true, Bool.not_eq_true', List.any_eq_false] at hvalid
  exact Bool.eq_false_iff.mpr (hvalid.2 c hc)

/-- A path opens no scope, neither alone nor before a quoted format. -/
theorem scopeName?_path (hkeyword : g.keyword = keyword.toList) (hvalid : isKeyword keyword = true)
    {path rest : List Char} (hpath : ∀ c, c ∈ path → isPathChar c = true)
    (hrest : ∀ c, rest.head? = some c → Text.isBlank c = true)
    (hname : (Text.dropBlanks rest).takeWhile isScopeNameChar = []) :
    g.scopeName? (path ++ rest) = none := by
  unfold scopeName?
  split
  · next hstart =>
      rw [hkeyword, List.isPrefixOf_iff_prefix] at hstart
      obtain ⟨later, hlater⟩ := hstart
      have hdrop : (path ++ rest).drop g.keyword.length = later := by
        rw [hkeyword, ← hlater, List.drop_left]
      simp only [hdrop]
      rcases List.append_eq_append_iff.mp hlater with ⟨more, hsplit, hmore⟩ | ⟨more, hsplit, hmore⟩
      · cases more with
        | nil =>
            rw [List.nil_append] at hmore
            simp [hmore, hname]
        | cons c more =>
            -- the path goes on behind the keyword, and no blank follows
            have hc := hpath c (by rw [hsplit]; simp)
            simp only [isPathChar, Bool.and_eq_true, Bool.not_eq_true'] at hc
            simp [hmore, hc.1]
      · cases more with
        | nil =>
            rw [List.nil_append] at hmore
            simp [← hmore, hname]
        | cons c more =>
            have hblank := hrest c (by rw [hmore]; rfl)
            rw [isBlank_of_mem_keyword hvalid (by rw [hsplit]; simp)] at hblank
            cases hblank
  · rfl

/-- A path that is not the closing word is read as a value, alone or before a quoted format. -/
theorem readToken_dotted (hkeyword : g.keyword = keyword.toList) (hvalid : isKeyword keyword = true)
    {path : List String} {rest : List Char} (hne : path ≠ [])
    (hnames : ∀ name, name ∈ path → ∀ c, c ∈ name.toList → isScopeNameChar c = true)
    (hdotted : Segment.dotted path ≠ "")
    (hrest : ∀ c, rest.head? = some c → Text.isBlank c = true)
    (hname : (Text.dropBlanks rest).takeWhile isScopeNameChar = [])
    (hcloser : (Segment.dotted path).toList ++ rest ≠ g.closer) :
    g.readToken ((Segment.dotted path).toList ++ rest) =
      .segment (.value path ((readFormat? rest).map String.ofList)) := by
  have hscope : g.scopeName? ((Segment.dotted path).toList ++ rest) = none :=
    scopeName?_path hkeyword hvalid (fun c => isPathChar_of_mem_dotted hnames) hrest hname
  have hstop : ∀ c, rest.head? = some c → isPathChar c = false := by
    intro c hc
    simp [isPathChar, hrest c hc]
  unfold readToken
  rw [if_neg hcloser, hscope]
  exact readValue_dotted hne hnames hdotted hstop

/-- The body of a printed token is read as the token. -/
theorem bodySegment?_body (hkeyword : g.keyword = keyword.toList)
    (hcloser : g.closer = '/' :: keyword.toList) (hvalid : isKeyword keyword = true)
    {s : Segment} (hs : s.isLiteral = false) (h : s.IsPrintable opening closing keyword) :
    g.bodySegment? (s.body keyword).toList = some s := by
  unfold bodySegment?
  cases s with
  | literal text => cases hs
  | scopeClose =>
      simp [Segment.body, readToken, hcloser]
  | scopeOpen name =>
      obtain ⟨hne, hname⟩ := h
      have hchars : name.toList ≠ [] := by
        rwa [ne_eq, String.toList_eq_nil_iff]
      have hbody : (Segment.body keyword (.scopeOpen name)).toList =
          keyword.toList ++ ' ' :: name.toList := by
        simp [Segment.body]
      have hlonger : keyword.toList ++ ' ' :: name.toList ≠ g.closer := by
        intro heq
        have hlen := congrArg List.length heq
        have hpos := List.length_pos_iff.mpr hchars
        rw [hcloser, List.length_append, List.length_cons, List.length_cons] at hlen
        omega
      unfold readToken
      rw [hbody, if_neg hlonger, scopeName?_name hkeyword hchars hname]
      simp
  | value path format =>
      obtain ⟨hne, hnames, hdotted, hcloses, hformat⟩ := h
      cases format with
      | none =>
          have hbody : (Segment.dotted path).toList ++ [] ≠ g.closer := by
            intro heq
            apply hcloses rfl
            rw [← String.toList_inj]
            simpa [hcloser] using heq
          have hread := readToken_dotted hkeyword hvalid hne hnames hdotted (by simp) rfl hbody
          rw [List.append_nil] at hread
          simp [Segment.body, hread, readFormat?]
      | some format =>
          have hbody : (Segment.body keyword (.value path (some format))).toList =
              (Segment.dotted path).toList ++ ' ' :: quoteMark :: (format.toList ++ [quoteMark]) := by
            simp [Segment.body, quoteMark]
          have hblank : (Segment.dotted path).toList ++
              ' ' :: quoteMark :: (format.toList ++ [quoteMark]) ≠ g.closer := by
            intro heq
            have hmem : ' ' ∈ '/' :: keyword.toList := by
              rw [← hcloser, ← heq]
              simp
            rcases List.mem_cons.mp hmem with hslash | hword
            · cases hslash
            · have hbare := isBlank_of_mem_keyword hvalid hword
              cases hbare
          have hread := readToken_dotted hkeyword hvalid hne hnames hdotted
            (by simp; decide) rfl hblank
          rw [hbody, hread, readFormat?_quoted (hformat format rfl)]
          simp

/-! ## Scanning what was printed -/

theorem drop_behind (literal tail : List Char) (c : Char) (k : Nat) :
    (literal ++ c :: tail).drop (literal.length + 1 + k) = tail.drop k := by
  rw [Nat.add_assoc, ← List.drop_drop, List.drop_left, Nat.add_comm, List.drop_succ_cons]

theorem getElem?_behind (literal tail : List Char) (c : Char) (k : Nat) :
    (literal ++ c :: tail)[literal.length + 1 + k]? = tail[k]? := by
  rw [← List.head?_drop, drop_behind, List.head?_drop]

theorem isToken_printed {literal body : List Char} (hopening : opening ∉ body)
    (hclosing : closing ∉ body) (rest : List Char) :
    IsToken opening closing (literal ++ opening :: (body ++ closing :: rest)) literal.length
      (literal.length + 1 + body.length) := by
  refine ⟨by omega, by simp, ?_, ?_⟩
  · rw [getElem?_behind]
    simp
  · intro i hi hlow
    obtain ⟨k, rfl⟩ := Nat.exists_eq_add_of_le (Nat.succ_le_of_lt hlow)
    have hk : k < body.length := by omega
    have hget : (literal ++ opening :: (body ++ closing :: rest))[literal.length + 1 + k]? =
        some body[k] := by
      rw [getElem?_behind, List.getElem?_append_left hk, List.getElem?_eq_getElem hk]
    rw [hget]
    constructor
    · intro heq
      exact hopening (Option.some.inj heq ▸ List.getElem_mem hk)
    · intro heq
      exact hclosing (Option.some.inj heq ▸ List.getElem_mem hk)

/-- A text with a bare token behind an unmarked literal is cut at this token. -/
theorem cut_printed (hm : g.HasMarks opening closing) {literal body : List Char}
    (hliteral : Segment.IsUnmarked opening closing literal)
    (hopening : opening ∉ body) (hclosing : closing ∉ body) (rest : List Char) :
    g.cut (literal ++ opening :: (body ++ closing :: rest)) = .token literal body rest := by
  have htoken : IsToken opening closing (literal ++ opening :: (body ++ closing :: rest))
      literal.length (literal.length + 1 + body.length) :=
    isToken_printed hopening hclosing rest
  have hopens := (hm.opensAt_iff _).mpr htoken.2.1
  cases hcut : g.cut (literal ++ opening :: (body ++ closing :: rest)) with
  | plain =>
      exact absurd hopens (cut_eq_plain hcut _)
  | unterminated first =>
      obtain ⟨_, hfirst, hclosed⟩ := cut_eq_unterminated hcut
      have hle : first ≤ literal.length := by
        by_contra hlater
        exact hfirst _ (by omega) hopens
      exact absurd ((hm.closesAt_iff _).mpr htoken.2.2.1) (hclosed _ (by omega))
  | token literal' body' rest' =>
      obtain ⟨first, s, e, hfirst, rfl, rfl, rfl⟩ := cut_eq_token hm.opening_ne_nil hcut
      rcases hfirst.eq_or_lt hm htoken with ⟨rfl, rfl⟩ | hbefore
      · have hliteral' : slice (literal ++ opening :: (body ++ closing :: rest)) 0 literal.length =
            literal := by
          simp [slice]
        have hbody : slice (literal ++ opening :: (body ++ closing :: rest)) (literal.length + 1)
            (literal.length + 1 + body.length) = body := by
          have hdrop := drop_behind literal (body ++ closing :: rest) opening 0
          rw [Nat.add_zero, List.drop_zero] at hdrop
          unfold slice
          rw [List.drop_take, hdrop, Nat.add_sub_cancel_left, List.take_left]
        have hrest : (literal ++ opening :: (body ++ closing :: rest)).drop
            (literal.length + 1 + body.length + 1) = rest := by
          rw [Nat.add_assoc (literal.length + 1), drop_behind]
          simp
        rw [hliteral', hbody, hrest]
      · -- the first token would stand in the literal
        obtain ⟨hlt, hs, he, _⟩ := hfirst.isToken hm
        rw [List.getElem?_append_left (by omega)] at hs he
        exact absurd he (hliteral s e hlt hs)

theorem cut_of_isUnmarked (hm : g.HasMarks opening closing) {text literal body rest : List Char}
    (h : Segment.IsUnmarked opening closing text) : g.cut text ≠ .token literal body rest := by
  intro hcut
  obtain ⟨first, s, e, hfirst, _⟩ := cut_eq_token hm.opening_ne_nil hcut
  obtain ⟨hlt, hs, he, _⟩ := hfirst.isToken hm
  exact h s e hlt hs he

theorem atoms_scanFrom_of_isUnmarked (hm : g.HasMarks opening closing) {text : List Char}
    (h : Segment.IsUnmarked opening closing text) (total : Nat) :
    ((g.scanFrom total text).pieces.flatMap g.segmentsOf).flatMap Segment.atoms =
      text.map Sum.inl := by
  rw [scanFrom]
  split
  · next hempty => simp [hempty]
  · split
    · simp [segmentsOf, Segment.atoms]
    · simp [segmentsOf, Segment.atoms]
    · next hcut => exact absurd hcut (cut_of_isUnmarked hm h)

/-- A scan that starts with a token goes on behind it. -/
theorem pieces_scanFrom_of_cut {text literal body rest : List Char} (hne : text ≠ [])
    (hcut : g.cut text = .token literal body rest) (total : Nat) :
    (g.scanFrom total text).pieces =
      .literal literal :: .token body :: (g.scanFrom total rest).pieces := by
  rw [scanFrom, dif_neg hne]
  split
  · next hplain =>
      rw [hcut] at hplain
      cases hplain
  · next hopen =>
      rw [hcut] at hopen
      cases hopen
  · next htoken =>
      rw [hcut] at htoken
      cases htoken
      rfl

/-- A scan of printed segments behind an unmarked literal leaves the characters of the literal and the atoms
of the segments. The literal is what was printed before the next token. -/
theorem atoms_scan_print (hm : g.HasMarks opening closing) (hkeyword : g.keyword = keyword.toList)
    (hcloser : g.closer = '/' :: keyword.toList) (hvalid : isKeyword keyword = true)
    {segments : List Segment} (h : Segment.IsCanonical opening closing keyword segments)
    (total : Nat) {literal : List Char} (hliteral : Segment.IsUnmarked opening closing literal)
    (hhead : literal = [] ∨ ∀ s, segments.head? = some s → s.isLiteral = false) :
    ((g.scanFrom total
        (literal ++ (Segment.print opening closing keyword segments).toList)).pieces.flatMap
          g.segmentsOf).flatMap Segment.atoms =
      literal.map Sum.inl ++ segments.flatMap Segment.atoms := by
  induction segments generalizing literal with
  | nil =>
      simpa [Segment.print] using atoms_scanFrom_of_isUnmarked hm hliteral total
  | cons s segments ih =>
      obtain ⟨_, hnext, hjoined⟩ := Segment.isJoined_cons_iff.mp h.joined
      have hrest : Segment.IsCanonical opening closing keyword segments :=
        ⟨hjoined, fun t ht => h.printable t (List.mem_cons_of_mem _ ht),
          fun t ht => h.bare t (List.mem_cons_of_mem _ ht)⟩
      have hprintable := h.printable s List.mem_cons_self
      cases hs : s.isLiteral with
      | true =>
          obtain ⟨text, rfl⟩ := Segment.exists_of_isLiteral hs
          rcases hhead with rfl | hhead
          · have hunmarked : Segment.IsUnmarked opening closing text.toList := hprintable
            have hscan := ih hrest hunmarked (Or.inr (hnext hs))
            simpa [Segment.print, Segment.written, Segment.atoms] using hscan
          · have hnot := hhead _ rfl
            cases hnot
      | false =>
          obtain ⟨hopening, hclosing⟩ := h.bare s List.mem_cons_self hs
          have hwritten : literal ++
              (Segment.print opening closing keyword (s :: segments)).toList =
                literal ++ opening :: ((s.body keyword).toList ++
                  closing :: (Segment.print opening closing keyword segments).toList) := by
            rw [Segment.print_cons, Segment.written_of_not_literal hs]
            simp
          have hcut := cut_printed hm hliteral hopening hclosing
            (Segment.print opening closing keyword segments).toList
          have hbody := bodySegment?_body hkeyword hcloser hvalid hs hprintable
          have hscan := ih hrest Segment.isUnmarked_nil (Or.inl rfl)
          rw [List.nil_append, List.map_nil, List.nil_append] at hscan
          rw [hwritten, pieces_scanFrom_of_cut (by simp) hcut]
          simp only [List.flatMap_cons, List.flatMap_append, segmentsOf, hbody, hscan]
          simp [Segment.atoms]

/-- Printing and reading again gives the same segments. -/
theorem parse_print {opening closing : Char} {keyword : String} {g : Grammar}
    (accepted : Grammar.make (String.singleton opening) (String.singleton closing) keyword = .ok g)
    {segments : List Segment} (h : Segment.IsCanonical opening closing keyword segments)
    (voice : Voice) :
    (g.parse (some (Segment.print opening closing keyword segments))).result voice =
      .ok segments := by
  obtain ⟨opening', closing', ho, hc, hm, hvalid, hkeyword, hcloser⟩ := make_eq_ok accepted
  rw [← String.singleton_inj.mp ho, ← String.singleton_inj.mp hc] at hm
  have hatoms := atoms_scan_print hm hkeyword hcloser hvalid h
    (Segment.print opening closing keyword segments).length Segment.isUnmarked_nil (Or.inl rfl)
  rw [result_parse]
  congr 1
  calc
    Segment.joinLiterals
        ((g.scan (Segment.print opening closing keyword segments)).pieces.flatMap g.segmentsOf)
        = Segment.joinLiterals segments := by
          exact Segment.joinLiterals_eq_of_atoms_eq hatoms
    _ = segments := Segment.joinLiterals_of_isJoined h.joined

/-- Stray marks beside tokens, an empty name in a path and an empty format. -/
theorem parse_print_with_stray_marks :
    Grammar.make (String.singleton '[') (String.singleton ']') "with" =
        .ok ⟨['['], [']'], ['w', 'i', 't', 'h'], ['/', 'w', 'i', 't', 'h']⟩ ∧
      (Grammar.parse ⟨['['], [']'], ['w', 'i', 't', 'h'], ['/', 'w', 'i', 't', 'h']⟩
          (some "]a[[with n][.z \"\"][/with][")).result {} =
        .ok [.literal "]a[", .scopeOpen "n", .value ["", "z"] (some ""), .scopeClose,
          .literal "["] := by
  have accepted : Grammar.make (String.singleton '[') (String.singleton ']') "with" =
      .ok ⟨['['], [']'], ['w', 'i', 't', 'h'], ['/', 'w', 'i', 't', 'h']⟩ := by
    decide
  have canonical : Segment.IsCanonical '[' ']' "with" [.literal "]a[", .scopeOpen "n",
      .value ["", "z"] (some ""), .scopeClose, .literal "["] := by
    refine ⟨by simp [Segment.IsJoined, Segment.isLiteral], ?_, by decide⟩
    have hfirst : Segment.IsUnmarked '[' ']' "]a[".toList := by
      intro s e hlt _ he
      rcases e with _ | _ | _ | e
      · omega
      · cases he
      · cases he
      · cases he
    have hlast : Segment.IsUnmarked '[' ']' "[".toList := by
      intro s e hlt _ he
      rcases e with _ | e
      · omega
      · cases he
    have hnames : ("n".toList.all isScopeNameChar && "z".toList.all isScopeNameChar) = true := by
      decide
    simp only [Bool.and_eq_true, List.all_eq_true] at hnames
    simp only [List.forall_mem_cons, Segment.IsPrintable]
    refine ⟨hfirst, ⟨by decide, hnames.1⟩, ⟨by decide, ⟨by simp, hnames.2, by simp⟩, by decide,
      by decide, ?_⟩, trivial, hlast, by simp⟩
    rintro text heq
    cases heq
    decide
  have printed : Segment.print '[' ']' "with" [.literal "]a[", .scopeOpen "n",
      .value ["", "z"] (some ""), .scopeClose, .literal "["] =
        "]a[[with n][.z \"\"][/with][" := by
    decide
  rw [← printed]
  exact ⟨accepted, parse_print accepted canonical {}⟩

end Grammar

end Stencil
