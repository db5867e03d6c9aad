import RuleGate.Proofs.Http.Target
import RuleGate.Proofs.Result

/-! # Forms of targets

A text that begins with a slash is read as a path, and a target with a scheme has an authority. The
text of a path and query is the one followed by the other, unless a query stands there alone: the
path then counts as a slash, which the text does not have.
-/
namespace RuleGate

namespace PathQuery

variable {p : PathQuery}

theorem toText_eq (h : p.text.head? ≠ some '?') :
    p.toText = p.path ++ (p.query?.map ('?' :: ·)).getD [] := by
  unfold toText path query?
  cases ht : p.text with
  | nil => rfl
  | cons c t =>
    have hc : c ≠ '?' := by simpa [ht] using h
    have hcut := Text.cut_eq '?' (c :: t)
    rw [Text.cut, if_neg hc] at hcut ⊢
    exact hcut

theorem toText_of_bare {query : Text} (h : p.text = '?' :: query) :
    p.toText = '?' :: query ∧ p.path = ['/'] ∧ p.query? = some query := by
  unfold toText path query?
  rw [h]
  exact ⟨rfl, rfl, rfl⟩

theorem head?_of_ofText {t : Text} (h : ofText t = .ok p) {c : Char} (hc : c ≠ '#')
    (ht : t.head? = some c) : p.text.head? = some c := by
  cases t with
  | nil => exact absurd ht nofun
  | cons x t =>
    obtain rfl := Option.some.inj ht
    rw [ofText_eq h, List.takeWhile_cons_of_pos (by simpa using hc)]
    rfl

end PathQuery

namespace Target

variable {t : Text} {target : Target}

theorem parse_slash (t : Text) :
    parse ('/' :: t) =
      if PathQuery.maxBytes < (Utf8.encode ('/' :: t)).length then .error .tooLong
      else (PathQuery.ofText ('/' :: t)).map .relative := by
  unfold parse
  by_cases hlong : PathQuery.maxBytes < (Utf8.encode ('/' :: t)).length
  · rw [if_pos hlong, if_pos hlong]
    rfl
  · rw [if_neg hlong, if_neg hlong]
    rfl

theorem exists_of_parse_slash (h : parse ('/' :: t) = .ok target) :
    ∃ p : PathQuery, target = .relative p ∧ p.text.head? = some '/' := by
  rw [parse_slash] at h
  split at h
  · exact absurd h nofun
  · obtain ⟨p, hp, rfl⟩ := map_eq_ok.mp h
    exact ⟨p, rfl, PathQuery.head?_of_ofText hp (by decide) rfl⟩

def ofRest (scheme : Option Text) (r : Text) : Except TargetFault Target :=
  let host := r.takeWhile (!Authority.isEnd ·)
  let rest := r.dropWhile (!Authority.isEnd ·)
  Authority.check host >>= fun _ =>
    match scheme with
    | none => if rest.isEmpty then .ok (.authority host) else .error .invalidFormat
    | some scheme =>
      if host.isEmpty then .error .invalidFormat
      else PathQuery.ofText rest >>= fun p => .ok (.absolute scheme host p)

theorem parse_of_ne (hnil : t ≠ []) (hstar : t ≠ ['*']) (hslash : t.head? ≠ some '/') :
    parse t =
      if PathQuery.maxBytes < (Utf8.encode t).length then .error .tooLong
      else cutScheme t >>= fun (scheme, r) => ofRest scheme r := by
  unfold parse
  by_cases hlong : PathQuery.maxBytes < (Utf8.encode t).length
  · rw [if_pos hlong, if_pos hlong]
    rfl
  · rw [if_neg hlong, if_neg hlong]
    split
    · exact absurd rfl hnil
    · exact absurd rfl hstar
    · exact absurd rfl hslash
    · rfl

theorem ne_nil_of_ofRest {scheme : Option Text} {r name host : Text} {p : PathQuery}
    (h : ofRest scheme r = .ok (.absolute name host p)) : host ≠ [] := by
  obtain ⟨_, -, h⟩ := bind_eq_ok.mp h
  cases scheme with
  | none =>
    dsimp only at h
    split at h <;> exact absurd h nofun
  | some scheme =>
    dsimp only at h
    split at h
    · exact absurd h nofun
    · rename_i hne
      obtain ⟨q, -, hq⟩ := bind_eq_ok.mp h
      obtain ⟨-, rfl, -⟩ := Target.absolute.inj (Except.ok.inj hq)
      simpa using hne

/-- There is no absolute form without an authority. -/
theorem ne_nil_of_parse {name host : Text} {p : PathQuery}
    (h : parse t = .ok (.absolute name host p)) : host ≠ [] := by
  by_cases hslash : t.head? = some '/'
  · obtain ⟨t, rfl⟩ := List.head?_eq_some_iff.mp hslash
    obtain ⟨q, hq, -⟩ := exists_of_parse_slash h
    exact absurd hq nofun
  · by_cases hnil : t = []
    · subst hnil
      exact absurd h nofun
    · by_cases hstar : t = ['*']
      · subst hstar
        exact absurd h nofun
      · rw [parse_of_ne hnil hstar hslash] at h
        split at h
        · exact absurd h nofun
        · obtain ⟨parts, -, hrest⟩ := bind_eq_ok.mp h
          exact ne_nil_of_ofRest hrest

end Target

end RuleGate
