import RuleGate.Proofs.Rule.Block

/-! # Merging flags

A token adds its flag to those that there are already, whichever these may be. What a block says is
therefore merged from what its pieces say, one after the other, up to the first piece that is not
read.
-/
namespace RuleGate

namespace Flags

/-- What either flags set is set, and of two redirects or content types the later one counts. -/
def merge (f g : Flags) : Flags where
  noCase := f.noCase || g.noCase
  last := f.last || g.last
  proxy := f.proxy || g.proxy
  redirect := g.redirect.or f.redirect
  forbidden := f.forbidden || g.forbidden
  gone := f.gone || g.gone
  contentType := g.contentType.or f.contentType
  host := g.host.or f.host

def startsFilter (piece : Text) : Bool :=
  match Text.trim piece with
  | 'H' :: '=' :: _ => true
  | _ => false

def read (piece : Text) : Except RuleFault Flags := ({} : Flags).token (Text.trim piece)

variable {f g : Flags} {a b piece : Text} {pieces rest : List Text} {fault : RuleFault}

theorem empty_merge (f : Flags) : ({} : Flags).merge f = f := by
  simp [merge]

theorem merge_assoc (f g h : Flags) : (f.merge g).merge h = f.merge (g.merge h) := by
  simp [merge, Bool.or_assoc, Option.or_assoc]

/-- A token has its effect on top of the flags before it. -/
theorem token_eq_map (f : Flags) (t : Text) :
    f.token t = (({} : Flags).token t).map f.merge := by
  unfold token
  split
  case h_8 code =>
    cases Status.ofText? code <;> simp [Except.map, merge]
  case h_9 =>
    cases contentTypeOf [] <;> simp [Except.map, merge]
  case h_10 value =>
    cases contentTypeOf value <;> simp [Except.map, merge]
  all_goals simp [Except.map, merge]

theorem trimStart_ne_of_startsFilter (h : startsFilter piece = false) (filter : Text) :
    Text.trimStart piece ≠ 'H' :: '=' :: filter := by
  intro hfilter
  obtain ⟨u, hu⟩ := (Text.exists_trim_eq_iff (by decide)).mpr ⟨filter, hfilter⟩
  unfold startsFilter at h
  rw [hu] at h
  exact absurd h nofun

theorem exists_trimStart_of_startsFilter (h : startsFilter piece = true) :
    ∃ filter, Text.trimStart piece = 'H' :: '=' :: filter := by
  unfold startsFilter at h
  split at h
  · rename_i u hu
    exact (Text.exists_trim_eq_iff (by decide)).mp ⟨u, hu⟩
  · exact absurd h nofun

theorem tokens_cons (h : startsFilter piece = false) (pieces : List Text) (f : Flags) :
    f.tokens (piece :: pieces) = read piece >>= fun g => (f.merge g).tokens pieces := by
  rw [tokens_cons_of_not_host (trimStart_ne_of_startsFilter h), token_eq_map, read]
  cases ({} : Flags).token (Text.trim piece) <;> rfl

theorem tokens_eq_map (f : Flags) (pieces : List Text) :
    f.tokens pieces = (({} : Flags).tokens pieces).map f.merge := by
  induction pieces generalizing f with
  | nil => simp [tokens, Except.map, merge]
  | cons piece pieces ih =>
    cases hfilter : startsFilter piece with
    | true =>
      obtain ⟨filter, hstart⟩ := exists_trimStart_of_startsFilter hfilter
      rw [tokens_cons_of_host hstart, tokens_cons_of_host hstart]
      simp [Except.map, merge]
    | false =>
      rw [tokens_cons hfilter, tokens_cons hfilter]
      cases read piece with
      | error fault => rfl
      | ok g =>
        change (f.merge g).tokens pieces = ((({} : Flags).merge g).tokens pieces).map f.merge
        rw [ih (f.merge g), ih (({} : Flags).merge g), empty_merge]
        cases ({} : Flags).tokens pieces with
        | error fault => rfl
        | ok h => exact congrArg Except.ok (merge_assoc f g h)

/-- Pieces before the filter are read first, and what follows is read on top of them. -/
theorem tokens_append (h : ∀ p ∈ pieces, startsFilter p = false) (rest : List Text) (f : Flags) :
    f.tokens (pieces ++ rest) = f.tokens pieces >>= fun g => g.tokens rest := by
  induction pieces generalizing f with
  | nil => rfl
  | cons piece pieces ih =>
    obtain ⟨hpiece, hpieces⟩ := List.forall_mem_cons.mp h
    rw [List.cons_append, tokens_cons hpiece, tokens_cons hpiece]
    cases read piece with
    | error fault => rfl
    | ok g => exact ih hpieces (f.merge g)

/-- A block is read in two parts around a comma, unless the comma is one of the filter. -/
theorem parse_append (h : ∀ p ∈ Text.splitAll ',' a, startsFilter p = false) (b : Text) :
    parse (a ++ ',' :: b) = parse a >>= fun f => (parse b).map f.merge := by
  unfold parse
  rw [Text.splitAll_append_separator, tokens_append h]
  refine congrArg (_ >>= ·) (funext fun f => ?_)
  rw [tokens_eq_map]

theorem parse_of_not_mem (hcomma : ',' ∉ piece) (h : startsFilter piece = false) :
    parse piece = read piece := by
  rw [parse, Text.splitAll_of_not_mem hcomma, tokens_cons h]
  cases read piece with
  | error fault => rfl
  | ok g => exact congrArg Except.ok (empty_merge g)

theorem exists_parse_of_startsFilter (hcomma : ',' ∉ piece) (h : startsFilter piece = true) :
    ∃ f, parse piece = .ok f := by
  obtain ⟨filter, hstart⟩ := exists_trimStart_of_startsFilter h
  rw [parse, Text.splitAll_of_not_mem hcomma, tokens_cons_of_host hstart]
  exact ⟨_, rfl⟩

/-- The fault of a list of pieces is that of the first piece that is not read. -/
theorem tokens_eq_error_iff (hpieces : ∀ p ∈ pieces, ',' ∉ p) :
    f.tokens pieces = .error fault ↔
      ∃ before piece after, pieces = before ++ piece :: after ∧
        (∀ p ∈ before, startsFilter p = false ∧ ∃ g, parse p = .ok g) ∧
        parse piece = .error fault := by
  induction pieces generalizing f with
  | nil =>
    refine ⟨nofun, ?_⟩
    rintro ⟨before, piece, after, h, -⟩
    exact absurd h.symm (by simp)
  | cons p pieces ih =>
    obtain ⟨hcomma, hrest⟩ := List.forall_mem_cons.mp hpieces
    cases hfilter : startsFilter p with
    | true =>
      obtain ⟨filter, hstart⟩ := exists_trimStart_of_startsFilter hfilter
      obtain ⟨g, hg⟩ := exists_parse_of_startsFilter hcomma hfilter
      rw [tokens_cons_of_host hstart]
      refine ⟨nofun, ?_⟩
      rintro ⟨before, piece, after, h, hbefore, hpiece⟩
      cases before with
      | nil =>
        obtain ⟨rfl, rfl⟩ := List.cons.inj h
        exact absurd (hg.symm.trans hpiece) nofun
      | cons q before =>
        obtain ⟨rfl, -⟩ := List.cons.inj h
        have hplain := (hbefore p List.mem_cons_self).1
        rw [hfilter] at hplain
        exact absurd hplain nofun
    | false =>
      have hparse : parse p = read p := parse_of_not_mem hcomma hfilter
      rw [tokens_cons hfilter, bind_eq_error]
      constructor
      · rintro (hread | ⟨g, hread, htokens⟩)
        · exact ⟨[], p, pieces, rfl, List.forall_mem_nil _, hparse.trans hread⟩
        · obtain ⟨before, piece, after, rfl, hbefore, hpiece⟩ := (ih hrest).mp htokens
          exact ⟨p :: before, piece, after, rfl,
            List.forall_mem_cons.mpr ⟨⟨hfilter, g, hparse.trans hread⟩, hbefore⟩, hpiece⟩
      · rintro ⟨before, piece, after, h, hbefore, hpiece⟩
        cases before with
        | nil =>
          obtain ⟨rfl, rfl⟩ := List.cons.inj h
          exact .inl (hparse.symm.trans hpiece)
        | cons q before =>
          obtain ⟨rfl, rfl⟩ := List.cons.inj h
          obtain ⟨⟨-, g, hg⟩, hbefore⟩ := List.forall_mem_cons.mp hbefore
          exact .inr ⟨g, hparse.symm.trans hg,
            (ih hrest).mpr ⟨before, piece, after, rfl, hbefore, hpiece⟩⟩

end Flags

end RuleGate
