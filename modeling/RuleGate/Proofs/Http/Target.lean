import RuleGate.Http.Target
import RuleGate.Proofs.Text.Pieces

/-! # Putting a URL on a target

A path with a query is read up to its fragment. A target takes a URL as it is when that is the
present one, and otherwise with a slash in front and without fragment; an authority alone takes
none, not even the slash that stands for its missing path.
-/
namespace RuleGate

namespace PathQuery

/-- No character of a text is refused, neither in the path nor behind the first question mark. -/
def Accepted (t : Text) : Prop :=
  (Text.cut '?' t).1.all isPathChar = true ∧
    ∀ query ∈ (Text.cut '?' t).2, query.all isQueryChar = true

instance (t : Text) : Decidable (Accepted t) := inferInstanceAs (Decidable (_ ∧ _))

variable {c : Char} {t u : Text} {p : PathQuery}

theorem accepted_question : Accepted ('?' :: t) ↔ t.all isQueryChar = true := by
  simp [Accepted, Text.cut]

theorem accepted_cons (hc : c ≠ '?') : Accepted (c :: t) ↔ isPathChar c = true ∧ Accepted t := by
  simp [Accepted, Text.cut, hc, and_assoc]

theorem scanQuery_eq (t : Text) :
    scanQuery t =
      let kept := t.takeWhile (· != '#')
      if kept.all isQueryChar = true then some kept else none := by
  induction t with
  | nil => rfl
  | cons c t ih =>
    by_cases hc : c = '#'
    · subst hc
      rfl
    · rw [scanQuery, List.takeWhile_cons_of_pos (by simpa using hc), ih]
      · by_cases hquery : isQueryChar c = true
        · simp [hquery, apply_ite]
        · simp [hquery]
      · exact hc

/-- What is read is the text before the first `#`, if it is accepted. -/
theorem scan_eq (t : Text) :
    scan t =
      let kept := t.takeWhile (· != '#')
      if Accepted kept then some kept else none := by
  induction t with
  | nil => rfl
  | cons c t ih =>
    by_cases hc : c = '#'
    · subst hc
      rfl
    · rw [List.takeWhile_cons_of_pos (by simpa using hc)]
      by_cases hq : c = '?'
      · subst hq
        rw [scan, scanQuery_eq]
        simp [accepted_question, apply_ite]
      · rw [scan, ih]
        · by_cases hpath : isPathChar c = true
          · simp [accepted_cons hq, hpath, apply_ite]
          · simp [accepted_cons hq, hpath]
        · exact hc
        · exact hq

theorem ofText_eq_ok_iff :
    ofText t = .ok p ↔
      (Utf8.encode t).length ≤ maxBytes ∧ Accepted (t.takeWhile (· != '#')) ∧
        p = ⟨t.takeWhile (· != '#')⟩ := by
  rw [ofText, scan_eq]
  by_cases hlength : maxBytes < (Utf8.encode t).length
  · simp [hlength, Nat.not_le.mpr hlength]
  · by_cases haccepted : Accepted (t.takeWhile (· != '#'))
    · simp [hlength, haccepted, Nat.not_lt.mp hlength, eq_comm]
    · simp [hlength, haccepted]

theorem ofText_eq (h : ofText t = .ok p) : p.text = t.takeWhile (· != '#') := by
  rw [(ofText_eq_ok_iff.mp h).2.2]

theorem cut_toText (p : PathQuery) : (Text.cut '?' p.toText).2 = p.query? := by
  unfold toText query?
  split
  · rename_i h
    rw [List.isEmpty_iff.mp h]
    rfl
  · rfl

end PathQuery

namespace Target

/-- A target with this path and query in place of those of another one in the same form. -/
inductive Rewritten (p : PathQuery) : Target → Target → Prop
  | relative (q : PathQuery) : Rewritten p (.relative q) (.relative p)
  | absolute (scheme authority : Text) (q : PathQuery) :
    Rewritten p (.absolute scheme authority q) (.absolute scheme authority p)

theorem rewritten_of_withPathQuery? {t t' : Target} {p : PathQuery}
    (h : t.withPathQuery? p = some t') : Rewritten p t t' := by
  cases t with
  | relative q =>
    obtain rfl := Option.some.inj h
    exact .relative q
  | absolute scheme authority q =>
    obtain rfl := Option.some.inj h
    exact .absolute scheme authority q
  | authority a => exact absurd h nofun

theorem Rewritten.pathQuery?_eq {t t' : Target} {p : PathQuery} (h : Rewritten p t t') :
    t'.pathQuery? = some p := by
  cases h <;> rfl

theorem url_of_pathQuery? {t : Target} {p : PathQuery} (h : t.pathQuery? = some p) :
    t.url = p.toText := by
  simp [url, h]

theorem cut_url (t : Target) : (Text.cut '?' t.url).2 = t.query? := by
  unfold url query?
  cases h : t.pathQuery? with
  | none => rfl
  | some p => exact p.cut_toText

theorem withUrl?_url {t : Target} (h : t.pathQuery?.isSome = true) : t.withUrl? t.url = some t := by
  obtain ⟨p, hp⟩ := Option.isSome_iff_exists.mp h
  rw [withUrl?, url_of_pathQuery? hp, hp]
  exact if_pos rfl

theorem withUrl?_of_no_path {t : Target} (h : t.pathQuery? = none) (url : Text) :
    t.withUrl? url = none := by
  cases t with
  | authority a =>
    rw [withUrl?, if_neg (by simp [pathQuery?])]
    split <;> rfl
  | relative p => exact absurd h (by simp [pathQuery?])
  | absolute scheme host p => exact absurd h (by simp [pathQuery?])

/-- A target that takes another URL has its text before the fragment as path and query. -/
theorem pathQuery?_of_withUrl? {t t' : Target} {url : Text} (h : t.withUrl? url = some t')
    (hne : url ≠ t.url) : t'.pathQuery? = some ⟨(rooted url).takeWhile (· != '#')⟩ := by
  unfold withUrl? at h
  split at h
  · rename_i hown
    obtain ⟨p, hp, rfl⟩ := Option.map_eq_some_iff.mp hown
    exact absurd (url_of_pathQuery? hp).symm hne
  · split at h
    · rename_i p hp
      rw [(rewritten_of_withPathQuery? h).pathQuery?_eq, ← PathQuery.ofText_eq hp]
    · exact absurd h (by simp)

theorem eq_of_withUrl?_url {t t' : Target} (h : t.withUrl? t.url = some t') : t' = t := by
  cases hp : t.pathQuery? with
  | none => exact absurd h (by simp [withUrl?_of_no_path hp])
  | some p =>
    rw [withUrl?_url (by simp [hp])] at h
    exact (Option.some.inj h).symm

theorem cut_rooted (url : Text) : (Text.cut '?' (rooted url)).2 = (Text.cut '?' url).2 := by
  unfold rooted
  split
  · rfl
  · rw [Text.cut, if_neg (by decide)]

theorem mem_rooted {c : Char} (hc : c ≠ '/') (url : Text) : c ∈ rooted url ↔ c ∈ url := by
  unfold rooted
  split
  · rfl
  · simp [hc]

end Target

end RuleGate
