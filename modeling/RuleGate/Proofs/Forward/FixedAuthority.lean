import Mathlib.Data.List.Basic
import RuleGate.Forward
import RuleGate.Proofs.Rule.Directive
import RuleGate.Proofs.Rule.Substitution
import RuleGate.Proofs.Url.Authority

/-! # Backends that a request cannot choose

The replacement of a proxy rule may name the authority of the backend and leave only what follows
to the request. Where such a rule matches at the beginning of a URL, the request goes to that
authority: neither the text that the pattern captures nor the text that it leaves over has a say in
the transport, the host or the number after the colon.
-/
namespace RuleGate

namespace Authority

/-- The host: what follows the last `@`, up to a colon that is not in brackets. -/
def host (t : Text) : Text :=
  match (t.reverse.takeWhile (· != '@')).reverse with
  | '[' :: r => '[' :: r.takeWhile (· != ']') ++ [']']
  | place => place.takeWhile (· != ':')

def service? (t : Text) : Option Nat :=
  let digits := match (t.reverse.takeWhile (· != ':')).reverse with
    | '+' :: r => r
    | r => r
  if !t.contains ':' || digits.isEmpty || !digits.all Text.isDigit || 65535 < Text.decimal digits
  then none
  else some (Text.decimal digits)

end Authority

namespace Target

def host? (t : Target) : Option Text := t.authority?.map Authority.host

def service? (t : Target) : Option Nat := t.authority?.bind Authority.service?

theorem parse_of_scheme (scheme : Scheme) (r : Text) :
    parse (scheme.name ++ text "://" ++ r) =
      if PathQuery.maxBytes < (Utf8.encode (scheme.name ++ text "://" ++ r)).length then
        .error .tooLong
      else
        Authority.check (r.takeWhile (!Authority.isEnd ·)) >>= fun _ =>
          if (r.takeWhile (!Authority.isEnd ·)).isEmpty then .error .invalidFormat
          else
            PathQuery.ofText (r.dropWhile (!Authority.isEnd ·)) >>= fun p =>
              .ok (.absolute scheme.name (r.takeWhile (!Authority.isEnd ·)) p) := by
  unfold parse
  by_cases hlong : PathQuery.maxBytes < (Utf8.encode (scheme.name ++ text "://" ++ r)).length
  · rw [if_pos hlong, if_pos hlong]
    rfl
  · rw [if_neg hlong, if_neg hlong]
    cases scheme <;> rfl

theorem exists_of_parse_scheme {scheme : Scheme} {r : Text} {t : Target}
    (h : parse (scheme.name ++ text "://" ++ r) = .ok t) :
    ∃ p, PathQuery.ofText (r.dropWhile (!Authority.isEnd ·)) = .ok p ∧
      t = .absolute scheme.name (r.takeWhile (!Authority.isEnd ·)) p := by
  rw [parse_of_scheme] at h
  split at h
  · exact absurd h nofun
  · obtain ⟨_, -, h⟩ := bind_eq_ok.mp h
    split at h
    · exact absurd h nofun
    · obtain ⟨p, hp, ht⟩ := bind_eq_ok.mp h
      exact ⟨p, hp, (Except.ok.inj ht).symm⟩

theorem authority?_of_parse {scheme : Scheme} {r : Text} {t : Target}
    (h : parse (scheme.name ++ text "://" ++ r) = .ok t) :
    t.authority? = some (r.takeWhile (!Authority.isEnd ·)) := by
  obtain ⟨p, -, rfl⟩ := exists_of_parse_scheme h
  rfl

end Target

namespace Url

theorem takeWhile_toText (u : Url) :
    ∃ tail, u.toText = u.scheme.name ++ text "://" ++ tail ∧
      tail.takeWhile (!RuleGate.Authority.isEnd ·) =
        u.authorityText.takeWhile (!RuleGate.Authority.isEnd ·) := by
  have hstop : (u.path.flatMap ('/' :: ·) ++ ((u.query.map ('?' :: ·)).getD [] ++
      (u.fragment.map ('#' :: ·)).getD [])).takeWhile (!RuleGate.Authority.isEnd ·) = [] := by
    cases u.path with
    | cons segment path => rfl
    | nil => cases u.query <;> cases u.fragment <;> rfl
  refine ⟨_, ?_, Text.takeWhile_append_of_nil hstop u.authorityText⟩
  unfold toText
  simp only [List.append_assoc]

end Url

namespace Destination

theorem ofUrl_eq_ok_iff {place : Text} {d : Destination} :
    ofUrl place = .ok d ↔
      ∃ u, Url.parse place = .ok (.web u) ∧ u.host.isMissing = false ∧
        Target.parse u.withoutFragment.toText = .ok d.target ∧
        d.transport = Transport.ofScheme u.scheme := by
  unfold ofUrl
  constructor
  · intro h
    split at h
    · exact absurd h nofun
    · exact absurd h nofun
    · rename_i u hurl
      split at h
      · exact absurd h nofun
      · rename_i hhost
        split at h
        · exact absurd h nofun
        · rename_i target htarget
          obtain rfl := Except.ok.inj h
          exact ⟨u, hurl, by simpa using hhost, htarget, rfl⟩
  · rintro ⟨u, hurl, hhost, htarget, htransport⟩
    simp only [hurl, hhost, htarget, ← htransport]
    rfl

theorem exists_of_ofUrl {place : Text} {d : Destination} (h : ofUrl place = .ok d) :
    ∃ u, Url.parse place = .ok (.web u) ∧ d.transport = Transport.ofScheme u.scheme ∧
      d.target.authority? = some (u.authorityText.takeWhile (!Authority.isEnd ·)) := by
  obtain ⟨u, hurl, -, htarget, htransport⟩ := ofUrl_eq_ok_iff.mp h
  obtain ⟨tail, htext, htail⟩ := u.withoutFragment.takeWhile_toText
  rw [htext] at htarget
  exact ⟨u, hurl, htransport, (Target.authority?_of_parse htarget).trans (congrArg some htail)⟩

/-- The place of a URL with an authority in front depends on nothing else. -/
theorem of_authority {scheme : Scheme} {authority rest : Text} {d : Destination}
    (hne : authority ≠ []) (hend : ∀ c ∈ authority, Url.isAuthorityEnd c = false)
    (hbreak : ∀ c ∈ authority, Url.isBreak c = false)
    (h : ofUrl (scheme.name ++ text "://" ++ authority ++ '/' :: rest) = .ok d) :
    d.transport = Transport.ofScheme scheme ∧
      ∃ a, Url.readAuthority authority = .ok a ∧
        d.target.authority? = some ((a.toText scheme).takeWhile (!Authority.isEnd ·)) := by
  obtain ⟨u, hurl, htransport, hauthority⟩ := exists_of_ofUrl h
  obtain ⟨rfl, a, ha, htext⟩ := Url.authority_of_parse hne hend hbreak hurl
  exact ⟨htransport, a, ha, by rw [hauthority, htext]⟩

end Destination

namespace Rule

variable {directive : Text} {line : Nat} {r : Rule} {scheme : Scheme} {authority back url : Text}
  {m : Pattern.Match} {d : Destination}

theorem isBlank_of_isBreak {c : Char} (h : Url.isBreak c = true) : Text.isBlank c = true := by
  unfold Url.isBreak at h
  simp only [Bool.or_eq_true, beq_iff_eq] at h
  rcases h with (rfl | rfl) | rfl <;> decide

/-- The authority that a compiled rule names has no breaks, since its replacement has no blanks. -/
theorem isBreak_of_mem_authority (hrule : parse directive line = .ok r)
    (hreplacement : r.replacement = scheme.name ++ text "://" ++ authority ++ '/' :: back)
    {c : Char} (hc : c ∈ authority) : Url.isBreak c = false := by
  have hblank : Text.isBlank c = false :=
    isBlank_of_mem_replacement hrule (by simp [hreplacement, hc])
  by_contra hbreak
  rw [isBlank_of_isBreak (by simpa using hbreak)] at hblank
  exact absurd hblank (by decide)

/-- Where a compiled rule names an authority and matches at the beginning of a URL, it sends to that
authority. -/
theorem destination_of_authority (hrule : parse directive line = .ok r)
    (hreplacement : r.replacement = scheme.name ++ text "://" ++ authority ++ '/' :: back)
    (hne : authority ≠ []) (hauthority : ∀ c ∈ authority, c ∉ ['/', '?', '#', '\\', '$'])
    (hmatch : r.pattern.find? url = some m) (hstart : m.start = 0)
    (h : Destination.ofUrl (r.substitute url) = .ok d) :
    d.transport = Transport.ofScheme scheme ∧
      ∃ a, Url.readAuthority authority = .ok a ∧
        d.target.authority? = some ((a.toText scheme).takeWhile (!Authority.isEnd ·)) := by
  have hend : ∀ c ∈ authority, Url.isAuthorityEnd c = false := by
    intro c hc
    have hnot := hauthority c hc
    simp only [List.mem_cons, List.not_mem_nil, not_or] at hnot
    simp [Url.isAuthorityEnd, Url.isSlash, hnot]
  have hfront : '$' ∉ scheme.name ++ text "://" ++ authority ++ ['/'] := by
    have hscheme : '$' ∉ scheme.name ++ text "://" := by cases scheme <;> decide
    have hplace : '$' ∉ authority := fun hc => hauthority '$' hc (by decide)
    simp only [List.mem_append, not_or] at hscheme ⊢
    exact ⟨⟨hscheme, hplace⟩, by decide⟩
  have hsplit : r.replacement = (scheme.name ++ text "://" ++ authority ++ ['/']) ++ back := by
    rw [hreplacement, List.append_assoc _ ['/'], List.singleton_append]
  obtain ⟨rest, hrest⟩ := exists_substitute_eq_append hsplit hfront hmatch hstart
  rw [hrest, List.append_assoc _ ['/'], List.singleton_append] at h
  exact Destination.of_authority hne hend
    (fun c hc => isBreak_of_mem_authority hrule hreplacement hc) h

/-- A proxy rule with an authority in its replacement sends to one place whatever the URL that it
matches from the beginning: transport, host and number are those of every other such URL. -/
theorem destination_eq_of_authority {url₁ url₂ : Text} {m₁ m₂ : Pattern.Match}
    {d₁ d₂ : Destination} (hrule : parse directive line = .ok r)
    (hreplacement : r.replacement = scheme.name ++ text "://" ++ authority ++ '/' :: back)
    (hne : authority ≠ []) (hauthority : ∀ c ∈ authority, c ∉ ['/', '?', '#', '\\', '$'])
    (hmatch₁ : r.pattern.find? url₁ = some m₁) (hstart₁ : m₁.start = 0)
    (hmatch₂ : r.pattern.find? url₂ = some m₂) (hstart₂ : m₂.start = 0)
    (h₁ : Destination.ofUrl (r.substitute url₁) = .ok d₁)
    (h₂ : Destination.ofUrl (r.substitute url₂) = .ok d₂) :
    d₁.transport = d₂.transport ∧ d₁.target.host? = d₂.target.host? ∧
      d₁.target.service? = d₂.target.service? := by
  obtain ⟨htransport₁, a₁, ha₁, hauthority₁⟩ :=
    destination_of_authority hrule hreplacement hne hauthority hmatch₁ hstart₁ h₁
  obtain ⟨htransport₂, a₂, ha₂, hauthority₂⟩ :=
    destination_of_authority hrule hreplacement hne hauthority hmatch₂ hstart₂ h₂
  obtain rfl : a₁ = a₂ := Except.ok.inj (ha₁.symm.trans ha₂)
  unfold Target.host? Target.service?
  rw [htransport₁, htransport₂, hauthority₁, hauthority₂]
  exact ⟨rfl, rfl, rfl⟩

/-- Dots and an `@` behind what the group captures lead to another path, but not away from the
authority. -/
theorem destination_eq_of_authority_dots :
    let r := ofWellFormed "^/api/([a-z]+) http://[::1]/v1/$1 [P]" (by decide +kernel)
    ∃ d₁ d₂, Destination.ofUrl (r.substitute (text "/api/x")) = .ok d₁ ∧
      Destination.ofUrl (r.substitute (text "/api/x/../@e:1")) = .ok d₂ ∧ d₁.target ≠ d₂.target ∧
      d₁.transport = d₂.transport ∧ d₁.target.host? = d₂.target.host? ∧
        d₁.target.service? = d₂.target.service? := by
  intro r
  have hreplacement : r.replacement =
      Scheme.http.name ++ text "://" ++ text "[::1]" ++ '/' :: text "v1/$1" := by decide +kernel
  have hmatch₁ : r.pattern.find? (text "/api/x") = some ⟨0, 6, [some (0, 6), some (5, 6)]⟩ := by
    decide +kernel
  have hmatch₂ : r.pattern.find? (text "/api/x/../@e:1") =
      some ⟨0, 6, [some (0, 6), some (5, 6)]⟩ := by
    decide +kernel
  have hplace₁ : r.substitute (text "/api/x") = text "http://[::1]/v1/x" := by decide +kernel
  have hplace₂ : r.substitute (text "/api/x/../@e:1") = text "http://[::1]/v1/x/../@e:1" := by
    decide +kernel
  have h₁ : Destination.ofUrl (r.substitute (text "/api/x")) =
      .ok ⟨.plain, .absolute (text "http") (text "[::1]") ⟨text "/v1/x"⟩⟩ := by
    rw [hplace₁]
    cbv
  have h₂ : Destination.ofUrl (r.substitute (text "/api/x/../@e:1")) =
      .ok ⟨.plain, .absolute (text "http") (text "[::1]") ⟨text "/v1/@e:1"⟩⟩ := by
    rw [hplace₂]
    cbv
  have hplain : (text "[::1]").all (· ∉ ['/', '?', '#', '\\', '$']) = true := by decide
  have hauthority : ∀ c ∈ text "[::1]", c ∉ ['/', '?', '#', '\\', '$'] := fun c hc =>
    of_decide_eq_true (List.all_eq_true.mp hplain c hc)
  exact ⟨_, _, h₁, h₂, by decide, destination_eq_of_authority (parse_ofWellFormed _) hreplacement
    (by decide) hauthority hmatch₁ rfl hmatch₂ rfl h₁ h₂⟩

end Rule

end RuleGate
