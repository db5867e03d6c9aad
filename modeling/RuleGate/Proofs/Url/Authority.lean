import RuleGate.Proofs.Result
import RuleGate.Proofs.Text.Pieces
import RuleGate.Url

/-! # URLs with an authority in front

A URL that begins with a scheme, two slashes, an authority and a slash has this authority, whatever
follows: nothing that comes after the slash is read as part of it, and what does not count at the
end of a text or within it does not reach back to it.
-/
namespace RuleGate.Url

variable {front authority rest t : Text} {scheme : Scheme} {u : Url}

/-- A text is cleaned only behind a slash, if it has no edge in front of it and no breaks. -/
theorem exists_clean_eq_append (hedge : front.head?.any (!isEdge ·) = true)
    (hbreak : ∀ c ∈ front, isBreak c = false) (rest : Text) :
    ∃ tail, clean (front ++ '/' :: rest) = front ++ '/' :: tail := by
  have hslash : isEdge '/' = false := by decide
  have hfilter : front.filter (!isBreak ·) = front := by
    rw [List.filter_eq_self]
    intro c hc
    rw [hbreak c hc]
    rfl
  have hstart : (front ++ '/' :: rest).dropWhile isEdge = front ++ '/' :: rest := by
    cases front with
    | nil => exact absurd hedge (by decide)
    | cons c front => exact List.dropWhile_cons_of_neg (by simpa using hedge)
  refine ⟨(rest.reverse.dropWhile isEdge).reverse.filter (!isBreak ·), ?_⟩
  unfold clean
  rw [hstart, List.reverse_append, List.reverse_cons, List.append_assoc, List.singleton_append,
    Text.dropWhile_append_cons hslash, List.reverse_append, List.reverse_cons,
    List.reverse_reverse, List.append_assoc, List.singleton_append, List.filter_append, hfilter]
  rfl

theorem cutScheme?_name (scheme : Scheme) (rest : Text) :
    cutScheme? (scheme.name ++ ':' :: rest) = some (scheme.name, rest) := by
  cases scheme <;> rfl

theorem parse_of_cutScheme? (h : cutScheme? (clean t) = some (scheme.name, rest)) :
    parse t = ofScheme scheme rest >>= fun u => .ok (.web u) := by
  unfold parse
  rw [h]
  cases scheme <;> rfl

theorem isSlash_of_isAuthorityEnd {c : Char} (h : isAuthorityEnd c = false) :
    isSlash c = false := by
  unfold isAuthorityEnd at h
  simp only [Bool.or_eq_false_iff] at h
  exact h.1.1

theorem cutAuthority_slashes (hne : authority ≠ [])
    (hend : ∀ c ∈ authority, isAuthorityEnd c = false) (rest : Text) :
    cutAuthority ('/' :: '/' :: (authority ++ '/' :: rest)) = (authority, '/' :: rest) := by
  have hplain : ∀ c ∈ authority, (!isAuthorityEnd c) = true := fun c hc => by rw [hend c hc]; rfl
  have hdrop : ('/' :: '/' :: (authority ++ '/' :: rest)).dropWhile isSlash =
      authority ++ '/' :: rest := by
    obtain ⟨c, a, rfl⟩ := List.exists_cons_of_ne_nil hne
    have hc : isSlash c = false := isSlash_of_isAuthorityEnd (hend c List.mem_cons_self)
    rw [List.dropWhile_cons_of_pos (by decide), List.dropWhile_cons_of_pos (by decide),
      List.cons_append, List.dropWhile_cons_of_neg (by simp [hc])]
  unfold cutAuthority
  dsimp only
  rw [hdrop, List.takeWhile_append_of_pos hplain, List.dropWhile_append_of_pos hplain,
    List.takeWhile_cons_of_neg (by decide), List.dropWhile_cons_of_neg (by decide),
    List.append_nil]

def Authority.toText (scheme : Scheme) (a : Authority) : Text :=
  authorityText ⟨scheme, a.credentials, a.host,
    if a.service = some (defaultService scheme) then none else a.service, [], none, none⟩

theorem authority_of_ofScheme (h : ofScheme scheme t = .ok u)
    (hplace : (cutAuthority t).1 = authority) :
    u.scheme = scheme ∧
      ∃ a, readAuthority authority = .ok a ∧ u.authorityText = a.toText scheme := by
  unfold ofScheme at h
  dsimp only at h
  rw [hplace] at h
  obtain ⟨a, ha, hu⟩ := bind_eq_ok.mp h
  obtain rfl := Except.ok.inj hu
  exact ⟨rfl, a, ha, rfl⟩

/-- The authority between two slashes and the next is read by itself. -/
theorem authority_of_parse (hne : authority ≠ [])
    (hend : ∀ c ∈ authority, isAuthorityEnd c = false)
    (hbreak : ∀ c ∈ authority, isBreak c = false)
    (h : parse (scheme.name ++ text "://" ++ authority ++ '/' :: rest) = .ok (.web u)) :
    u.scheme = scheme ∧
      ∃ a, readAuthority authority = .ok a ∧ u.authorityText = a.toText scheme := by
  have hedge : (scheme.name ++ text "://" ++ authority).head?.any (!isEdge ·) = true := by
    cases scheme <;> rfl
  have hfront : ∀ c ∈ scheme.name ++ text "://" ++ authority, isBreak c = false := by
    have hscheme : (scheme.name ++ text "://").all (!isBreak ·) = true := by cases scheme <;> rfl
    intro c hc
    rcases List.mem_append.mp hc with hc | hc
    · simpa using List.all_eq_true.mp hscheme c hc
    · exact hbreak c hc
  obtain ⟨tail, hclean⟩ := exists_clean_eq_append hedge hfront rest
  have hslashes : scheme.name ++ text "://" ++ authority ++ '/' :: tail =
      scheme.name ++ ':' :: '/' :: '/' :: (authority ++ '/' :: tail) := by
    rw [List.append_assoc, List.append_assoc]
    rfl
  rw [parse_of_cutScheme? (by rw [hclean, hslashes, cutScheme?_name])] at h
  have hplace := congrArg Prod.fst (cutAuthority_slashes hne hend tail)
  obtain ⟨v, hurl, hv⟩ := map_eq_ok.mp h
  obtain rfl : v = u := Parsed.web.inj hv
  exact authority_of_ofScheme hurl hplace

end RuleGate.Url
