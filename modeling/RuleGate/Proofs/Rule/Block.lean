import RuleGate.Proofs.Rule.Token

/-! # Reading blocks

A block is read piece by piece. Reading succeeds exactly on the blocks of the grammar, whose tokens
and filter are determined by the text, and each token has its effect on the flags in turn.
-/
namespace RuleGate

namespace SpellsBlock

variable {ts us : List FlagToken} {host host' : Option Text} {inner piece filter : Text}
  {t : FlagToken}

theorem not_spelledBy (h : Text.trimStart piece = 'H' :: '=' :: filter) : ¬ t.SpelledBy piece := by
  rintro ⟨-, ht⟩
  obtain ⟨u, hu⟩ := (Text.exists_trim_eq_iff (by decide)).mpr ⟨filter, h⟩
  exact t.toText_ne_host u (ht.symm.trans hu)

theorem trimStart_of_append {rest : Text}
    (h : Text.trimStart (piece ++ ',' :: rest) = 'H' :: '=' :: filter) :
    ∃ filter', Text.trimStart piece = 'H' :: '=' :: filter' := by
  rw [Text.trimStart_append_cons (by decide)] at h
  cases hstart : Text.trimStart piece with
  | nil =>
    rw [hstart] at h
    exact absurd (List.cons.inj h).1 (by decide)
  | cons c u =>
    rw [hstart] at h
    obtain ⟨rfl, hu⟩ := List.cons.inj h
    cases u with
    | nil => exact absurd (List.cons.inj hu).1 (by decide)
    | cons d u =>
      obtain ⟨rfl, -⟩ := List.cons.inj hu
      exact ⟨u, rfl⟩

/-- A block spells one list of tokens and one filter at most. -/
theorem unique (h : SpellsBlock ts host inner) (h' : SpellsBlock us host' inner) :
    ts = us ∧ host = host' := by
  induction h generalizing us host' with
  | token ht =>
    cases h' with
    | token hu => exact ⟨by rw [FlagToken.toText_injective (ht.2.symm.trans hu.2)], rfl⟩
    | host hinner => exact absurd ht (not_spelledBy hinner)
    | cons hu hrest => exact absurd ht.1 (by simp)
  | host hinner =>
    cases h' with
    | token hu => exact absurd hu (not_spelledBy hinner)
    | host hinner' =>
      obtain rfl := (List.cons.inj (List.cons.inj (hinner.symm.trans hinner')).2).2
      exact ⟨rfl, rfl⟩
    | cons hu hrest =>
      obtain ⟨filter', hfilter'⟩ := trimStart_of_append hinner
      exact absurd hu (not_spelledBy hfilter')
  | @cons t piece rest ts host ht hrest ih =>
    generalize hinner : piece ++ ',' :: rest = inner at h'
    cases h' with
    | token hu => exact absurd hu.1 (by simp [← hinner])
    | host hfilter =>
      rw [← hinner] at hfilter
      obtain ⟨filter', hfilter'⟩ := trimStart_of_append hfilter
      exact absurd ht (not_spelledBy hfilter')
    | @cons u piece' rest' us host' hu hrest' =>
      have hcut := congrArg (Text.cut ',') hinner
      rw [Text.cut_append_cons ht.1, Text.cut_append_cons hu.1] at hcut
      obtain ⟨rfl, hrest''⟩ := Prod.mk.inj hcut
      obtain rfl := Option.some.inj hrest''
      obtain ⟨rfl, rfl⟩ := ih hrest'
      exact ⟨by rw [FlagToken.toText_injective (ht.2.symm.trans hu.2)], rfl⟩

end SpellsBlock

namespace Flags

variable {f g : Flags} {ts : List FlagToken} {t : FlagToken} {host : Option Text}
  {inner piece filter : Text} {pieces rest : List Text}

def addAll (f : Flags) (ts : List FlagToken) (host : Option Text) : Flags :=
  let g := ts.foldl add f
  { g with host := host.or g.host }

theorem foldl_add_listed {p : Flags → Bool} {k : FlagToken}
    (h : ∀ f t, p (add f t) = (p f || decide (t = k))) (ts : List FlagToken) (f : Flags) :
    p (ts.foldl add f) = (p f || decide (k ∈ ts)) := by
  induction ts generalizing f with
  | nil => simp
  | cons t ts ih =>
    rw [List.foldl_cons, ih, h, Bool.or_assoc, ← Bool.decide_or]
    simp only [List.mem_cons, eq_comm]

/-- Of several tokens that set the same thing, the last one counts. -/
theorem foldl_add_last {α : Type} {p : Flags → Option α} {q : FlagToken → Option α}
    (h : ∀ f t, p (add f t) = (q t).or (p f)) (ts : List FlagToken) (f : Flags) :
    p (ts.foldl add f) = (ts.filterMap q).getLast?.or (p f) := by
  induction ts generalizing f with
  | nil => simp
  | cons t ts ih =>
    rw [List.foldl_cons, ih, h]
    cases ht : q t with
    | none => rw [List.filterMap_cons_none ht, Option.none_or]
    | some a =>
      rw [List.filterMap_cons_some ht, List.getLast?_cons]
      cases (ts.filterMap q).getLast? <;> rfl

theorem addAll_eq (ts : List FlagToken) (host : Option Text) :
    ({} : Flags).addAll ts host =
      { noCase := decide (.noCase ∈ ts), last := decide (.last ∈ ts), proxy := decide (.proxy ∈ ts),
        redirect := (ts.filterMap FlagToken.status?).getLast?,
        forbidden := decide (.forbidden ∈ ts), gone := decide (.gone ∈ ts),
        contentType := (ts.filterMap FlagToken.contentType?).getLast?.map Utf8.encode, host } := by
  have hhost : (ts.foldl add {}).host = none := by
    rw [foldl_add_last (p := Flags.host) (q := fun _ => none) (fun f t => (Option.none_or).symm),
      List.filterMap_none]
    rfl
  have hcontent : (ts.foldl add {}).contentType =
      (ts.filterMap FlagToken.contentType?).getLast?.map Utf8.encode := by
    rw [foldl_add_last (p := Flags.contentType) (fun _ _ => rfl), Option.or_none,
      ← List.getLast?_map, List.map_filterMap]
  unfold addAll
  simp only [Flags.mk.injEq]
  refine ⟨?_, ?_, ?_, ?_, ?_, ?_, hcontent, by rw [hhost, Option.or_none]⟩
  · exact foldl_add_listed (fun _ _ => rfl) ts {}
  · exact foldl_add_listed (fun _ _ => rfl) ts {}
  · exact foldl_add_listed (fun _ _ => rfl) ts {}
  · exact (foldl_add_last (fun _ _ => rfl) ts {}).trans Option.or_none
  · exact foldl_add_listed (fun _ _ => rfl) ts {}
  · exact foldl_add_listed (fun _ _ => rfl) ts {}

theorem tokens_cons_of_host (h : Text.trimStart piece = 'H' :: '=' :: filter) (rest : List Text)
    (f : Flags) :
    f.tokens (piece :: rest) =
      let filter := (Text.trimStart (Text.joinWith [','] (piece :: rest))).drop 2
      .ok { f with host := some (Text.trim filter) } := by
  obtain ⟨u, hu⟩ := (Text.exists_trim_eq_iff (by decide)).mpr ⟨filter, h⟩
  rw [tokens, hu]
  rfl

theorem tokens_cons_of_not_host (h : ∀ filter, Text.trimStart piece ≠ 'H' :: '=' :: filter)
    (rest : List Text) (f : Flags) :
    f.tokens (piece :: rest) = f.token (Text.trim piece) >>= fun f => f.tokens rest := by
  rw [tokens]
  split
  · rename_i u hu
    obtain ⟨filter, hfilter⟩ := (Text.exists_trim_eq_iff (by decide)).mp ⟨u, hu⟩
    exact absurd hfilter (h filter)
  · rfl

theorem tokens_cons_of_spelledBy (ht : t.SpelledBy piece) (hvalid : t.Valid Status.IsNumeral)
    (rest : List Text) (f : Flags) : f.tokens (piece :: rest) = (f.add t).tokens rest := by
  rw [tokens_cons_of_not_host (fun filter hfilter => SpellsBlock.not_spelledBy hfilter ht), ht.2,
    token_toText hvalid]
  rfl

/-- A block of the grammar is read to its end. -/
theorem tokens_of_spellsBlock (h : SpellsBlock ts host inner)
    (hts : ∀ t ∈ ts, t.Valid Status.IsNumeral) (f : Flags) :
    f.tokens (Text.splitAll ',' inner) = .ok (f.addAll ts host) := by
  induction h generalizing f with
  | token ht =>
    rw [Text.splitAll_of_not_mem ht.1, tokens_cons_of_spelledBy ht (hts _ List.mem_cons_self)]
    rfl
  | @host inner filter hinner =>
    obtain ⟨gap, hgap, htext⟩ := (Text.trimStart_eq_cons_iff (by decide)).mp hinner
    obtain ⟨first, rest, hfilter⟩ := Text.exists_splitAll_eq_cons ',' filter
    have hcomma : ',' ∉ gap ++ ['H', '='] := by
      intro hmem
      rcases List.mem_append.mp hmem with hmem | hmem
      · exact absurd (hgap _ hmem) (by decide)
      · exact absurd hmem (by decide)
    have hsplit : Text.splitAll ',' inner = (gap ++ ['H', '='] ++ first) :: rest := by
      rw [← Text.splitAll_append_of_not_mem hcomma hfilter, htext, List.append_assoc]
      rfl
    have hstart : Text.trimStart (gap ++ ['H', '='] ++ first) = 'H' :: '=' :: first :=
      (Text.trimStart_eq_cons_iff (by decide)).mpr ⟨gap, hgap, List.append_assoc ..⟩
    rw [hsplit, tokens_cons_of_host hstart, ← hsplit, Text.joinWith_splitAll, hinner]
    rfl
  | cons ht hrest ih =>
    rw [Text.splitAll_append_self ht.1, tokens_cons_of_spelledBy ht (hts _ List.mem_cons_self),
      ih fun t ht => hts t (List.mem_cons_of_mem _ ht)]
    rfl

theorem exists_joinWith_eq_of_host (h : Text.trimStart piece = 'H' :: '=' :: filter)
    (rest : List Text) :
    ∃ gap u, Text.IsBlanks gap ∧
      Text.joinWith [','] (piece :: rest) = gap ++ 'H' :: '=' :: u := by
  obtain ⟨gap, hgap, rfl⟩ := (Text.trimStart_eq_cons_iff (by decide)).mp h
  refine ⟨gap, Text.joinWith [','] (filter :: rest), hgap, ?_⟩
  have hjoin := Text.joinWith_append_cons [','] (gap ++ ['H', '=']) filter rest
  simpa only [List.append_assoc, List.cons_append, List.nil_append] using hjoin

theorem exists_of_tokens (hne : pieces ≠ []) (hpieces : ∀ p ∈ pieces, ',' ∉ p)
    (h : f.tokens pieces = .ok g) :
    ∃ ts host, SpellsBlock ts host (Text.joinWith [','] pieces) ∧
      ∀ t ∈ ts, t.Valid Status.IsNumeral := by
  induction pieces generalizing f with
  | nil => exact absurd rfl hne
  | cons piece rest ih =>
    by_cases hhost : ∃ filter, Text.trimStart piece = 'H' :: '=' :: filter
    · obtain ⟨filter, hfilter⟩ := hhost
      obtain ⟨gap, u, hgap, hjoin⟩ := exists_joinWith_eq_of_host hfilter rest
      exact ⟨[], _, .host ((Text.trimStart_eq_cons_iff (by decide)).mpr ⟨gap, hgap, hjoin⟩), nofun⟩
    · rw [tokens_cons_of_not_host (not_exists.mp hhost)] at h
      obtain ⟨f', htoken, hread⟩ := bind_eq_ok.mp h
      obtain ⟨t, htext, hvalid⟩ := exists_of_token htoken
      have ht : t.SpelledBy piece := ⟨hpieces piece List.mem_cons_self, htext.symm⟩
      cases rest with
      | nil => exact ⟨[t], none, .token ht, by simpa using hvalid⟩
      | cons q qs =>
        obtain ⟨ts, host, hrest, hts⟩ := ih (List.cons_ne_nil q qs)
          (fun p hp => hpieces p (List.mem_cons_of_mem _ hp)) hread
        refine ⟨t :: ts, host, ?_, List.forall_mem_cons.mpr ⟨hvalid, hts⟩⟩
        rw [Text.joinWith_cons_cons]
        exact .cons ht hrest

/-- A block is read exactly if it is one of the grammar, whose tokens take effect in order. -/
theorem parse_eq_ok_iff :
    parse inner = .ok g ↔
      ∃ ts host, SpellsBlock ts host inner ∧ (∀ t ∈ ts, t.Valid Status.IsNumeral) ∧
        g = ({} : Flags).addAll ts host := by
  constructor
  · intro h
    obtain ⟨piece, pieces, hsplit⟩ := Text.exists_splitAll_eq_cons ',' inner
    have hne : Text.splitAll ',' inner ≠ [] := by rw [hsplit]; exact List.cons_ne_nil _ _
    obtain ⟨ts, host, hspells, hts⟩ :=
      exists_of_tokens hne (fun p hp => Text.not_mem_of_mem_splitAll hp) h
    rw [Text.joinWith_splitAll] at hspells
    have hread := tokens_of_spellsBlock hspells hts {}
    exact ⟨ts, host, hspells, hts, Except.ok.inj (h.symm.trans hread)⟩
  · rintro ⟨ts, host, hspells, hts, rfl⟩
    exact tokens_of_spellsBlock hspells hts {}

end Flags

end RuleGate
