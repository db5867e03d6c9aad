import RuleGate.Proofs.Rule.Order
import RuleGate.Proofs.Text.Slice

/-! # The filter at the end of a block

A filter begins with the first piece of a block that has `H=` in front, and takes the text of the
block from there to its end, commas and all. A block can also be read from the left, without being
split, and codes, values and filters are then cut off at bytes. No such cut is beyond the end of a
text or within a character, whatever the block is.
-/
namespace RuleGate

namespace Flags

def beforeFilter (block : Text) : List Text :=
  (Text.splitAll ',' block).takeWhile (!startsFilter ·)

def IsToken (piece : Text) : Prop :=
  ∃ t : FlagToken, t.SpelledBy piece ∧ t.Valid Status.IsNumeral

/-- The flags after one more token. Its code or value is what follows two bytes: a content type may
go without, but a redirect with an equals sign has no result then. -/
def scanToken (f : Flags) (t : Text) : Option (Except RuleFault Flags) :=
  match t with
  | 'R' :: '=' :: _ =>
    (Utf8.sliceFrom? 2 t).map fun code =>
      match Status.ofText? code with
      | some status => .ok { f with redirect := some status }
      | none => .error (.invalidRedirect code)
  | ['T'] | 'T' :: '=' :: _ =>
    let value := (Utf8.sliceFrom? 2 t).getD []
    some ((contentTypeOf value).map fun v => { f with contentType := some v })
  | t => some (f.token t)

/-- The flags after what is left of a block. The token is looked for up to the first comma, but the
filter is what follows two bytes of all that is left, blanks in front apart. There is no result
where a text may not be cut. -/
def scan (f : Flags) (rest : Text) : Option (Except RuleFault Flags) :=
  if rest.isEmpty then some (.ok f)
  else
    let piece := (Text.cut ',' rest).1
    if startsFilter piece then
      (Utf8.sliceFrom? 2 (Text.trimStart rest)).map fun filter =>
        .ok { f with host := some (Text.trim filter) }
    else
      match f.scanToken (Text.trim piece) with
      | some (.ok f) => f.scan ((Text.cut ',' rest).2.getD [])
      | stop => stop
termination_by rest.length
decreasing_by exact Text.length_cut_lt ',' (by simpa using ‹¬ rest.isEmpty = true›)

variable {block piece filter gap rest : Text} {ps : List Text}

theorem exists_eq_block (h : ∃ p ∈ Text.splitAll ',' block, startsFilter p = true) :
    ∃ gap filter, Text.IsBlanks gap ∧
      block = Flags.block (beforeFilter block) (some (gap ++ 'H' :: '=' :: filter)) := by
  have hsplit : beforeFilter block ++ (Text.splitAll ',' block).dropWhile (!startsFilter ·) =
      Text.splitAll ',' block := List.takeWhile_append_dropWhile
  have hhead := List.head?_dropWhile_not (!startsFilter ·) (Text.splitAll ',' block)
  cases hrest : (Text.splitAll ',' block).dropWhile (!startsFilter ·) with
  | nil =>
    obtain ⟨p, hp, hstarts⟩ := h
    have hplain := List.dropWhile_eq_nil_iff.mp hrest p hp
    rw [hstarts] at hplain
    exact absurd hplain nofun
  | cons piece ps =>
    rw [hrest] at hsplit hhead
    have hpiece : startsFilter piece = true := by simpa using hhead
    obtain ⟨u, hstart⟩ := exists_trimStart_of_startsFilter hpiece
    obtain ⟨gap, filter, hgap, hjoin⟩ := exists_joinWith_eq_of_host hstart ps
    refine ⟨gap, filter, hgap, ?_⟩
    calc block
        = Text.joinWith [','] (Text.splitAll ',' block) := (Text.joinWith_splitAll ',' block).symm
      _ = Text.joinWith [','] (beforeFilter block ++ piece :: ps) := by rw [hsplit]
      _ = Flags.block (beforeFilter block) (some (gap ++ 'H' :: '=' :: filter)) := by
        rw [Text.joinWith_append, hjoin]
        rfl

theorem startsFilter_of_isToken (h : IsToken piece) : startsFilter piece = false := by
  obtain ⟨t, ht, -⟩ := h
  by_contra hstarts
  obtain ⟨u, hu⟩ := exists_trimStart_of_startsFilter (Bool.not_eq_false _ ▸ hstarts)
  exact SpellsBlock.not_spelledBy hu ht

theorem exists_tokens (h : ∀ p ∈ ps, IsToken p) (f : Flags) : ∃ g, f.tokens ps = .ok g := by
  induction ps generalizing f with
  | nil => exact ⟨f, rfl⟩
  | cons p ps ih =>
    obtain ⟨⟨t, ht, hvalid⟩, hps⟩ := List.forall_mem_cons.mp h
    obtain ⟨g, hg⟩ := ih hps (f.add t)
    exact ⟨g, (tokens_cons_of_spelledBy ht hvalid ps f).trans hg⟩

theorem tokens_splitAll_filter (hgap : Text.IsBlanks gap) (filter : Text) (f : Flags) :
    f.tokens (Text.splitAll ',' (gap ++ 'H' :: '=' :: filter)) =
      .ok { f with host := some (Text.trim filter) } :=
  tokens_of_spellsBlock
    (.host ((Text.trimStart_eq_cons_iff (by decide)).mpr ⟨gap, hgap, rfl⟩)) nofun f

theorem scanToken_eq (f : Flags) (t : Text) : f.scanToken t = some (f.token t) := by
  unfold scanToken
  split
  · rw [Utf8.sliceFrom?_two (by decide) (by decide)]
    rfl
  · rfl
  · rw [Utf8.sliceFrom?_two (by decide) (by decide)]
    rfl
  · rfl

theorem exists_eq_of_startsFilter_cut (h : startsFilter (Text.cut ',' rest).1 = true) :
    ∃ gap filter, Text.IsBlanks gap ∧ rest = gap ++ 'H' :: '=' :: filter := by
  obtain ⟨u, hstart⟩ := exists_trimStart_of_startsFilter h
  obtain ⟨gap, filter, hgap, hjoin⟩ := exists_joinWith_eq_of_host hstart
    (((Text.cut ',' rest).2.map (Text.splitAll ',')).getD [])
  rw [← Text.splitAll_eq_cut, Text.joinWith_splitAll] at hjoin
  exact ⟨gap, filter, hgap, hjoin⟩

theorem tokens_splitAll_of_not_startsFilter (h : startsFilter (Text.cut ',' rest).1 = false)
    (f : Flags) :
    f.tokens (Text.splitAll ',' rest) =
      f.token (Text.trim (Text.cut ',' rest).1) >>= fun g =>
        g.tokens (Text.splitAll ',' ((Text.cut ',' rest).2.getD [])) := by
  rw [Text.splitAll_eq_cut, tokens_cons_of_not_host (trimStart_ne_of_startsFilter h)]
  cases (Text.cut ',' rest).2 <;> rfl

/-- Reading from the left gives what the pieces do, so that no text is cut where it may not be. -/
theorem scan_eq (f : Flags) (rest : Text) :
    f.scan rest = some (f.tokens (Text.splitAll ',' rest)) := by
  fun_induction scan f rest with
  | case1 f rest hempty =>
    obtain rfl := List.isEmpty_iff.mp hempty
    rfl
  | case2 f rest _ piece hfilter =>
    obtain ⟨gap, filter, hgap, hrest⟩ := exists_eq_of_startsFilter_cut hfilter
    have hstart : Text.trimStart rest = 'H' :: '=' :: filter :=
      (Text.trimStart_eq_cons_iff (by decide)).mpr ⟨gap, hgap, hrest⟩
    rw [hstart, Utf8.sliceFrom?_two (by decide) (by decide), hrest, tokens_splitAll_filter hgap]
    rfl
  | case3 f rest _ piece hfilter g htoken ih =>
    rw [scanToken_eq] at htoken
    rw [ih, tokens_splitAll_of_not_startsFilter (Bool.eq_false_iff.mpr hfilter),
      Option.some.inj htoken]
    rfl
  | case4 f rest _ piece hfilter hstop =>
    rw [scanToken_eq] at hstop ⊢
    rw [tokens_splitAll_of_not_startsFilter (Bool.eq_false_iff.mpr hfilter)]
    cases htoken : f.token (Text.trim piece) with
    | ok g => exact absurd (congrArg some htoken) (hstop g)
    | error fault => rfl

/-- The filter of a block takes all the text after its equals sign, and the other flags are those of
the tokens before it, which have to be valid. Any block is read to the same flags or the same fault
from the left, so none of its texts is cut where it may not be. -/
theorem parse_takes_rest :
    (∀ block, (∃ p ∈ Text.splitAll ',' block, startsFilter p = true) →
      (∀ p ∈ beforeFilter block, IsToken p) →
        ∃ f gap filter, Text.IsBlanks gap ∧
          block = Flags.block (beforeFilter block) (some (gap ++ 'H' :: '=' :: filter)) ∧
          parse (Flags.block (beforeFilter block) none) = .ok f ∧
          parse block = .ok { f with host := some (Text.trim filter) }) ∧
    ∀ block, ({} : Flags).scan block = some (parse block) := by
  refine ⟨fun block hfilter htokens => ?_, fun block => scan_eq {} block⟩
  obtain ⟨gap, filter, hgap, hblock⟩ := exists_eq_block hfilter
  obtain ⟨f, hf⟩ := exists_tokens htokens {}
  have hcomma : ∀ p ∈ beforeFilter block, ',' ∉ p := fun p hp =>
    Text.not_mem_of_mem_splitAll (List.takeWhile_subset _ hp)
  have hplain : ∀ p ∈ beforeFilter block, startsFilter p = false := fun p hp =>
    startsFilter_of_isToken (htokens p hp)
  have hread (host : Option Text) : parse (Flags.block (beforeFilter block) host) =
      f.tokens ((host.map (Text.splitAll ',')).getD []) := by
    rw [parse_block hcomma, tokens_append hplain, hf]
    rfl
  have hparse : parse block = .ok { f with host := some (Text.trim filter) } := by
    rw [hblock, hread]
    exact tokens_splitAll_filter hgap filter f
  exact ⟨f, gap, filter, hgap, hblock, hread none, hparse⟩

/-- A filter with commas and what looks like flags in it, between blanks that are not ASCII. -/
theorem parse_takes_rest_wide :
    let block := text "R=302,\u3000NC ,\u2003H= ^(é|a),L$ , F\u00A0"
    ((∃ p ∈ Text.splitAll ',' block, startsFilter p = true) ∧
      ∀ p ∈ beforeFilter block, IsToken p) ∧
    (∃ f gap filter, Text.IsBlanks gap ∧
      block = Flags.block (beforeFilter block) (some (gap ++ 'H' :: '=' :: filter)) ∧
      parse (Flags.block (beforeFilter block) none) = .ok f ∧
      parse block = .ok { f with host := some (Text.trim filter) }) ∧
    ({} : Flags).scan block =
      some (.ok { noCase := true, redirect := some ⟨302, by decide, by decide⟩,
                  host := some (text "^(é|a),L$ , F") }) := by
  intro block
  obtain ⟨htakes, hscan⟩ := parse_takes_rest
  have hfilter : ∃ p ∈ Text.splitAll ',' block, startsFilter p = true := by decide
  have htokens : ∀ p ∈ beforeFilter block, IsToken p := by
    rw [show beforeFilter block = [text "R=302", text "\u3000NC "] by decide]
    rintro p (_ | ⟨_, _ | ⟨_, ⟨⟩⟩⟩)
    · exact ⟨.redirect (some (text "302")), by decide, by decide, by decide, by decide, by decide⟩
    · exact ⟨.noCase, by decide, trivial⟩
  refine ⟨⟨hfilter, htokens⟩, htakes block hfilter htokens, ?_⟩
  rw [hscan block]
  decide

end Flags

end RuleGate
