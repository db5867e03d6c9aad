import RuleGate.Proofs.Rule.Compilation
import RuleGate.Proofs.Rule.Merging

/-! # The order of flags

Tokens that set different things may change places: what they say is merged to the same flags. The
tokens before the filter for the host may therefore stand in any order, as long as at most one of
them names a redirect and at most one a content type, and the directive compiles to the same rule.
-/
namespace RuleGate

namespace Flags

def setsRedirect (piece : Text) : Bool :=
  match Text.trim piece with
  | ['R'] | 'R' :: '=' :: _ => true
  | _ => false

def setsContentType (piece : Text) : Bool :=
  match Text.trim piece with
  | ['T'] | 'T' :: '=' :: _ => true
  | _ => false

def block (ts : List Text) (filter : Option Text) : Text :=
  Text.joinWith [','] (ts ++ filter.toList)

/-- Tokens between commas of which none begins the filter for the host, at most one names a redirect
and at most one a content type. -/
structure Unordered (ts : List Text) : Prop where
  token : ∀ t ∈ ts, ',' ∉ t ∧ startsFilter t = false
  redirect : ts.countP setsRedirect ≤ 1
  contentType : ts.countP setsContentType ≤ 1

variable {f g : Flags} {a b piece : Text} {ts us rest : List Text}

theorem merge_comm (hredirect : f.redirect = none ∨ g.redirect = none)
    (hcontent : f.contentType = none ∨ g.contentType = none)
    (hhost : f.host = none ∨ g.host = none) : f.merge g = g.merge f := by
  have hor {α : Type} {x y : Option α} (h : x = none ∨ y = none) : y.or x = x.or y := by
    rcases h with rfl | rfl <;> simp
  unfold merge
  rw [hor hredirect, hor hcontent, hor hhost]
  simp [Bool.or_comm]

theorem exists_of_read (h : read piece = .ok f) :
    ∃ t : FlagToken, Text.trim piece = t.toText ∧ f = ({} : Flags).add t := by
  obtain ⟨t, ht, hvalid⟩ := exists_of_token h
  refine ⟨t, ht.symm, ?_⟩
  rw [read, ← ht, token_toText hvalid] at h
  exact (Except.ok.inj h).symm

theorem redirect_of_read (h : read piece = .ok f) (hpiece : setsRedirect piece = false) :
    f.redirect = none := by
  obtain ⟨t, ht, rfl⟩ := exists_of_read h
  unfold setsRedirect at hpiece
  rw [ht] at hpiece
  cases t with
  | redirect code => cases code <;> exact absurd hpiece nofun
  | _ => rfl

theorem contentType_of_read (h : read piece = .ok f) (hpiece : setsContentType piece = false) :
    f.contentType = none := by
  obtain ⟨t, ht, rfl⟩ := exists_of_read h
  unfold setsContentType at hpiece
  rw [ht] at hpiece
  cases t with
  | contentType value => cases value <;> exact absurd hpiece nofun
  | _ => rfl

theorem host_of_read (h : read piece = .ok f) : f.host = none := by
  obtain ⟨t, -, rfl⟩ := exists_of_read h
  rfl

/-- Two tokens that set different things may be read in either order. -/
theorem read_comm (hredirect : setsRedirect a = false ∨ setsRedirect b = false)
    (hcontent : setsContentType a = false ∨ setsContentType b = false) (f : Flags) :
    (read a >>= fun g => (read b).map (f.merge g).merge).toOption =
      (read b >>= fun g => (read a).map (f.merge g).merge).toOption := by
  cases ha : read a with
  | error fault => cases read b <;> rfl
  | ok g =>
    cases hb : read b with
    | error fault => rfl
    | ok h =>
      refine congrArg some ?_
      rw [merge_assoc, merge_assoc, merge_comm
        (hredirect.imp (redirect_of_read ha) (redirect_of_read hb))
        (hcontent.imp (contentType_of_read ha) (contentType_of_read hb))
        (.inl (host_of_read ha))]

theorem tokens_cons_cons (ha : startsFilter a = false) (hb : startsFilter b = false)
    (rest : List Text) (f : Flags) :
    f.tokens (a :: b :: rest) =
      (read a >>= fun g => (read b).map (f.merge g).merge) >>= fun h => h.tokens rest := by
  rw [tokens_cons ha]
  cases read a with
  | error fault => rfl
  | ok g =>
    change (f.merge g).tokens (b :: rest) = (read b).map (f.merge g).merge >>= _
    rw [tokens_cons hb]
    cases read b <;> rfl

theorem Unordered.tail {t : Text} (h : Unordered (t :: ts)) : Unordered ts where
  token := (List.forall_mem_cons.mp h.token).2
  redirect := (List.sublist_cons_self t ts).countP_le.trans h.redirect
  contentType := (List.sublist_cons_self t ts).countP_le.trans h.contentType

theorem eq_false_of_countP_le {k : Text → Bool} (h : (a :: b :: ts).countP k ≤ 1) :
    k a = false ∨ k b = false := by
  by_contra hboth
  simp only [not_or, Bool.not_eq_false] at hboth
  rw [List.countP_cons_of_pos hboth.1, List.countP_cons_of_pos hboth.2] at h
  omega

theorem Unordered.perm (h : Unordered ts) (hperm : ts.Perm us) : Unordered us where
  token t ht := h.token t (hperm.mem_iff.mpr ht)
  redirect := (hperm.countP_eq _).symm.trans_le h.redirect
  contentType := (hperm.countP_eq _).symm.trans_le h.contentType

/-- Tokens in another order are read to the same flags, or in neither order. -/
theorem toOption_tokens_of_perm (hperm : ts.Perm us) (hts : Unordered ts) (rest : List Text)
    (f : Flags) : (f.tokens (ts ++ rest)).toOption = (f.tokens (us ++ rest)).toOption := by
  induction hperm generalizing f with
  | nil => rfl
  | @cons t ts us _ ih =>
    have ht := (hts.token t List.mem_cons_self).2
    rw [List.cons_append, List.cons_append, tokens_cons ht, tokens_cons ht, toOption_bind,
      toOption_bind]
    exact congrArg _ (funext fun g => ih hts.tail (f.merge g))
  | swap a b ts =>
    have ha := (hts.token a (by simp)).2
    have hb := (hts.token b (by simp)).2
    simp only [List.cons_append]
    rw [tokens_cons_cons hb ha, tokens_cons_cons ha hb, toOption_bind (_ >>= _),
      toOption_bind (_ >>= _),
      read_comm (eq_false_of_countP_le hts.redirect) (eq_false_of_countP_le hts.contentType)]
  | trans hfirst _ ih ih' => exact (ih hts f).trans (ih' (hts.perm hfirst) f)

theorem parse_block (h : ∀ t ∈ ts, ',' ∉ t) (filter : Option Text) :
    parse (block ts filter) =
      ({} : Flags).tokens (ts ++ (filter.map (Text.splitAll ',')).getD []) := by
  unfold parse block
  cases filter with
  | some filter =>
    exact congrArg _ (Text.splitAll_joinWith_concat h filter)
  | none =>
    rcases List.eq_nil_or_concat' ts with rfl | ⟨us, t, rfl⟩
    · rfl
    · have hus : ∀ u ∈ us, ',' ∉ u := fun u hu => h u (by simp [hu])
      rw [Option.toList_none, List.append_nil, Text.splitAll_joinWith_concat hus,
        Text.splitAll_of_not_mem (h t (by simp))]
      simp

theorem toOption_parse_of_perm (hperm : ts.Perm us) (hts : Unordered ts) (filter : Option Text) :
    (parse (block ts filter)).toOption = (parse (block us filter)).toOption := by
  rw [parse_block fun t ht => (hts.token t ht).1,
    parse_block fun t ht => ((hts.perm hperm).token t ht).1]
  exact toOption_tokens_of_perm hperm hts _ _

end Flags

namespace Rule

structure SameButText (r s : Rule) : Prop where
  pattern_eq : s.pattern = r.pattern
  inverted_eq : s.inverted = r.inverted
  last_eq : s.last = r.last
  action_eq : s.action = r.action
  contentType_eq : s.contentType = r.contentType
  host_eq : s.host = r.host

/-- One directive with two blocks: in a field of their own, or as the replacement, which has no
blanks. -/
inductive WithBlocks (block block' : Text) : Text → Text → Prop
  | own {first gap replacement gap' : Text} (hfirst : Text.IsField first) (hgap : Text.IsGap gap)
    (hreplacement : Text.IsField replacement) (hgap' : Text.IsGap gap') :
    WithBlocks block block' (first ++ gap ++ replacement ++ gap' ++ Text.inBrackets block)
      (first ++ gap ++ replacement ++ gap' ++ Text.inBrackets block')
  | shared {first gap : Text} (hfirst : Text.IsField first) (hgap : Text.IsGap gap)
    (hblock : Text.IsField (Text.inBrackets block))
    (hblock' : Text.IsField (Text.inBrackets block')) :
    WithBlocks block block' (first ++ gap ++ Text.inBrackets block)
      (first ++ gap ++ Text.inBrackets block')

variable {first gap replacement replacement' gap' block block' d d' trailing trailing' : Text}
  {lead trail : Text} {flags : Flags} {r : Rule} {line : Nat}

theorem ofDirective_own (hfirst : Text.IsField first) (hgap : Text.IsGap gap)
    (hreplacement : Text.IsField replacement) (hgap' : Text.IsGap gap') (block : Text) :
    let d := first ++ gap ++ replacement ++ gap' ++ Text.inBrackets block
    ofDirective d =
      Flags.parse block >>= ofFlags d first replacement (Text.inBrackets block) := by
  intro d
  obtain ⟨rest, tail, hrest, htail, htrim⟩ :=
    exists_fields_own hfirst hgap hreplacement hgap' block
  rw [ofDirective_of_fields hrest htail, htrim, flagsOf, if_neg (by simp [Text.inBrackets]),
    bracketed?_eq_some_iff.mpr rfl]

theorem ofDirective_shared (hfirst : Text.IsField first) (hgap : Text.IsGap gap)
    (hblock : Text.IsField (Text.inBrackets block)) :
    let d := first ++ gap ++ Text.inBrackets block
    ofDirective d = Flags.parse block >>= ofFlags d first (Text.inBrackets block) [] := by
  intro d
  obtain ⟨rest, hrest, htail⟩ := exists_fields_bare hfirst hgap hblock
  rw [ofDirective_of_fields hrest htail, Text.trim_of_isBlanks (List.forall_mem_nil _), flagsOf,
    if_pos List.isEmpty_nil, bracketed?_eq_some_iff.mpr rfl]

/-- With the same flags, the texts of a directive and of its replacement have no part in what is
compiled. -/
theorem ofFlags_sameButText (htrailing : trailing.isEmpty = trailing'.isEmpty) :
    Option.Rel SameButText (ofFlags d first replacement trailing flags).toOption
      (ofFlags d' first replacement' trailing' flags).toOption := by
  cases h : ofFlags d first replacement trailing flags with
  | ok r =>
    obtain ⟨pattern, host, hpattern, hhost, rfl⟩ := ofFlags_eq_ok_iff.mp h
    rw [ofFlags_eq_ok_iff.mpr ⟨pattern, host, htrailing ▸ hpattern, hhost, rfl⟩]
    exact .some ⟨rfl, rfl, rfl, rfl, rfl, rfl⟩
  | error fault =>
    cases h' : ofFlags d' first replacement' trailing' flags with
    | ok r =>
      obtain ⟨pattern, host, hpattern, hhost, -⟩ := ofFlags_eq_ok_iff.mp h'
      rw [ofFlags_eq_ok_iff.mpr ⟨pattern, host, htrailing ▸ hpattern, hhost, rfl⟩] at h
      exact absurd h nofun
    | error fault' => exact .none

theorem WithBlocks.ofDirective (h : WithBlocks block block' d d')
    (hblocks : (Flags.parse block).toOption = (Flags.parse block').toOption) :
    Option.Rel SameButText (ofDirective d).toOption (ofDirective d').toOption := by
  cases h with
  | own hfirst hgap hreplacement hgap' =>
    rw [ofDirective_own hfirst hgap hreplacement hgap',
      ofDirective_own hfirst hgap hreplacement hgap']
    exact rel_toOption_bind hblocks fun flags => ofFlags_sameButText rfl
  | shared hfirst hgap hblock hblock' =>
    rw [ofDirective_shared hfirst hgap hblock, ofDirective_shared hfirst hgap hblock']
    exact rel_toOption_bind hblocks fun flags => ofFlags_sameButText rfl

theorem WithBlocks.trim_eq (h : WithBlocks block block' d d') :
    Text.trim d = d ∧ Text.trim d' = d' := by
  have hends {first : Text} (hfirst : Text.IsField first) (middle inner : Text) :
      Text.trim (first ++ middle ++ Text.inBrackets inner) =
        first ++ middle ++ Text.inBrackets inner :=
    strip_append_append (Text.trim_of_isField hfirst) (Text.trim_inBrackets inner) hfirst.1
      (Text.inBrackets_ne_nil inner) middle
  cases h with
  | @own first gap replacement gap' hfirst _ _ _ =>
    rw [List.append_assoc first gap, List.append_assoc first (gap ++ replacement)]
    exact ⟨hends hfirst _ _, hends hfirst _ _⟩
  | shared hfirst _ _ _ => exact ⟨hends hfirst _ _, hends hfirst _ _⟩

theorem toOption_parse (directive : Text) (line : Nat) :
    (parse directive line).toOption = (ofDirective (Text.trim directive)).toOption := by
  unfold parse
  dsimp only
  cases ofDirective (Text.trim directive) <;> rfl

/-- Directives whose blocks say the same compile to the same rules, up to their texts. -/
theorem WithBlocks.parse (h : WithBlocks block block' d d')
    (hblocks : (Flags.parse block).toOption = (Flags.parse block').toOption)
    (hlead : Text.IsBlanks lead) (htrail : Text.IsBlanks trail) (line : Nat) :
    Option.Rel SameButText (Rule.parse (lead ++ d ++ trail) line).toOption
      (Rule.parse (lead ++ d' ++ trail) line).toOption := by
  rw [toOption_parse, toOption_parse, Text.trim_append_append hlead htrail,
    Text.trim_append_append hlead htrail, h.trim_eq.1, h.trim_eq.2]
  exact h.ofDirective hblocks

end Rule

/-- Tokens in any order before the filter for the host give the same flags, or are refused in every
order, and so do the directives they stand in. Before the filter a block may be cut at any comma,
and its fault is that of the first token that is refused. -/
theorem Flags.parse_order :
    (∀ ts us filter, Flags.Unordered ts → ts.Perm us →
      (Flags.parse (Flags.block ts filter)).toOption =
          (Flags.parse (Flags.block us filter)).toOption ∧
        ∀ d d' lead trail line,
          Rule.WithBlocks (Flags.block ts filter) (Flags.block us filter) d d' →
          Text.IsBlanks lead → Text.IsBlanks trail →
            Option.Rel Rule.SameButText (Rule.parse (lead ++ d ++ trail) line).toOption
              (Rule.parse (lead ++ d' ++ trail) line).toOption) ∧
    (∀ a b, (∀ p ∈ Text.splitAll ',' a, Flags.startsFilter p = false) →
      Flags.parse (a ++ ',' :: b) =
        Flags.parse a >>= fun f => (Flags.parse b).map f.merge) ∧
    ∀ b fault, Flags.parse b = .error fault ↔
      ∃ before token after, Text.splitAll ',' b = before ++ token :: after ∧
        (∀ p ∈ before, Flags.startsFilter p = false ∧ ∃ f, Flags.parse p = .ok f) ∧
        Flags.parse token = .error fault := by
  refine ⟨fun ts us filter hts hperm => ?_, fun a b h => Flags.parse_append h b, fun b fault =>
    Flags.tokens_eq_error_iff fun p hp => Text.not_mem_of_mem_splitAll hp⟩
  have hflags := Flags.toOption_parse_of_perm hperm hts filter
  exact ⟨hflags, fun d d' lead trail line h hlead htrail => h.parse hflags hlead htrail line⟩

/-- A redirect, a content type and a blank token before a filter with a comma in it, a block cut
before its second redirect, and one of which two tokens are refused. -/
theorem Flags.parse_order_of_six :
    let ts := [text " R=302", text "NC", text "T= a/b ", [], text "L", text "NC"]
    let us := [text "L", text "NC", [], text "T= a/b ", text "NC", text " R=302"]
    let filter := some (text " H=^a,b$")
    let line (block : Text) := text "^/a$ /b " ++ Text.inBrackets block
    (Flags.Unordered ts ∧ ts.Perm us ∧
      (Flags.parse (Flags.block ts filter)).toOption.isSome = true ∧
      (Flags.parse (Flags.block ts filter)).toOption =
        (Flags.parse (Flags.block us filter)).toOption ∧
      Option.Rel Rule.SameButText
        (Rule.parse (text " " ++ line (Flags.block ts filter) ++ []) 1).toOption
        (Rule.parse (text " " ++ line (Flags.block us filter) ++ []) 1).toOption) ∧
    (Flags.parse (text "L,R,R=303") =
        Flags.parse (text "L,R") >>= fun f => (Flags.parse (text "R=303")).map f.merge) ∧
    Flags.parse (text "L,R=5,Q") = .error (.invalidRedirect (text "5")) := by
  intro ts us filter line
  obtain ⟨horder, hsplit, hfault⟩ := Flags.parse_order
  have hts : Flags.Unordered ts := ⟨by decide, by decide, by decide⟩
  have hperm : ts.Perm us := by decide
  obtain ⟨hflags, hrules⟩ := horder ts us filter hts hperm
  have hlines : Rule.WithBlocks (Flags.block ts filter) (Flags.block us filter)
      (line (Flags.block ts filter)) (line (Flags.block us filter)) :=
    .own (by decide : Text.IsField (text "^/a$")) (by decide : Text.IsGap (text " "))
      (by decide : Text.IsField (text "/b")) (by decide : Text.IsGap (text " "))
  refine ⟨⟨hts, hperm, by decide, hflags, hrules _ _ _ _ _ hlines (by decide) (by decide)⟩,
    hsplit (text "L,R") (text "R=303") (by decide),
    (hfault _ _).mpr ⟨[text "L"], text "R=5", [text "Q"], by decide, fun p hp => ?_, by decide⟩⟩
  obtain rfl := List.mem_singleton.mp hp
  exact ⟨by decide, _, rfl⟩

end RuleGate
