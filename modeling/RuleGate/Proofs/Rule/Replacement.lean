import RuleGate.Proofs.Pattern.Span
import RuleGate.Proofs.Rule.Substitution
import RuleGate.Proofs.Text.Digits

/-! # What a replacement stands for

A replacement is read from the left, and a number after a dollar sign is as long as it can be. Its
template is a text of its own and is read by other rules: a name there may have letters or stand in
braces, and it may mean a group by its name. Part by part the two readings come to the same text,
since every part of the template ends where the part of the replacement does.
-/
namespace RuleGate

namespace Pattern

variable {c : Char} {number : Text}

theorem isDigit_of_isNameChar (h : isNameChar true c = true) : Text.isDigit c = false := by
  by_contra hdigit
  rw [Bool.not_eq_false] at hdigit
  have hascii : c.toNat < 0x80 := Nat.lt_of_le_of_lt (Text.toNat_of_isDigit hdigit) (by decide)
  have hunderscore : c ≠ '_' := by
    rintro rfl
    exact absurd hdigit (by decide)
  simp [isNameChar, isAlphabetic, hunderscore, hascii, Text.isLetter_of_isDigit hdigit] at h

theorem Match.group_of_forall_ne {m : Match} {url : Text} {i : Nat}
    (h : ∀ span, m.groups[i]? ≠ some (some span)) : m.group url i = [] := by
  rw [Match.group]
  split
  · exact absurd ‹_› (h _)
  · rfl

theorem groupNumber?_of_isNumber (h : Text.IsNumber number) :
    groupNumber? number =
      if Text.decimal number < numberLimit then some (Text.decimal number) else none := by
  obtain ⟨c, digits, rfl, hc, hdigits⟩ := h.exists_cons
  have hplus : ∀ r, c :: digits ≠ '+' :: r := by
    intro r hr
    rw [(List.cons.inj hr).1] at hc
    exact absurd hc (by decide)
  have hall : (c :: digits).all Text.isDigit = true := by
    simpa using ⟨hc, hdigits⟩
  rw [groupNumber?]
  · by_cases hlimit : Text.decimal (c :: digits) < numberLimit
    · simp [hall, hlimit, Nat.not_le.mpr hlimit]
    · simp [hlimit, Nat.not_lt.mp hlimit]
  · exact hplus

theorem group?_of_isNumber (p : Pattern) (h : Text.IsNumber number) :
    p.group? number =
      if Text.decimal number < numberLimit then some (Text.decimal number) else none := by
  have hnames : (p.names.find? fun n => n.1.text == number) = none := by
    obtain ⟨c, digits, rfl, hc, -⟩ := h.exists_cons
    apply List.find?_eq_none.mpr
    intro n _ hn
    have hfirst : n.1.first = c := (List.cons.inj (beq_iff_eq.mp hn)).1
    have hnot := isDigit_of_isNameChar n.1.isFirst
    rw [hfirst, hc] at hnot
    exact absurd hnot (by simp)
  rw [group?, hnames, groupNumber?_of_isNumber h, Option.map_none, Option.or_none]

end Pattern

namespace Replacement

/-- What a replacement stands for at a match: each number after a dollar sign for the text of its
group, or for nothing if there is no group of the number or it took no part in the match. -/
inductive StandsFor (m : Pattern.Match) (url : Text) : Text → Text → Prop
  | nil : StandsFor m url [] []
  | char {c : Char} {t put : Text} (hc : c ≠ '$') (h : StandsFor m url t put) :
    StandsFor m url (c :: t) (c :: put)
  | dollars {t put : Text} (h : StandsFor m url t put) :
    StandsFor m url ('$' :: '$' :: t) ('$' :: put)
  | whole {t put : Text} (h : StandsFor m url t put) :
    StandsFor m url ('$' :: '&' :: t) (Pattern.slice url (m.start, m.stop) ++ put)
  | group {number t put : Text} {span : Nat × Nat} (hnumber : Text.IsNumber number)
    (hend : Text.EndsNumber t) (hlimit : Text.decimal number < Pattern.numberLimit)
    (hspan : m.groups[Text.decimal number]? = some (some span)) (h : StandsFor m url t put) :
    StandsFor m url ('$' :: (number ++ t)) (Pattern.slice url span ++ put)
  | missing {number t put : Text} (hnumber : Text.IsNumber number) (hend : Text.EndsNumber t)
    (hnone : Pattern.numberLimit ≤ Text.decimal number ∨
      ∀ span, m.groups[Text.decimal number]? ≠ some (some span)) (h : StandsFor m url t put) :
    StandsFor m url ('$' :: (number ++ t)) put
  | dollar {t put : Text} (hend : Text.EndsNumber t) (hdollar : t.head? ≠ some '$')
    (hwhole : t.head? ≠ some '&') (h : StandsFor m url t put) :
    StandsFor m url ('$' :: t) ('$' :: put)

variable {m : Pattern.Match} {url number t put : Text}

/-! ## The template of each part -/

theorem toTemplate_dollars (t : Text) : toTemplate ('$' :: '$' :: t) = '$' :: '$' :: toTemplate t :=
  rfl

theorem toTemplate_whole (t : Text) :
    toTemplate ('$' :: '&' :: t) = '$' :: '\x7b' :: (['0'] ++ '\x7d' :: toTemplate t) := rfl

theorem afterDollar_cons {c : Char} (hdollar : c ≠ '$') (hwhole : c ≠ '&') (t : Text) :
    afterDollar (c :: t) =
      if Text.isDigit c then '$' :: '\x7b' :: c :: afterDigit t
      else '$' :: '$' :: c :: toTemplate t := by
  rw [afterDollar]
  · exact hdollar
  · exact hwhole

theorem afterDigit_append (hdigits : ∀ c ∈ number, Text.isDigit c = true)
    (ht : Text.EndsNumber t) : afterDigit (number ++ t) = number ++ '\x7d' :: toTemplate t := by
  induction number with
  | nil =>
    cases t with
    | nil => rfl
    | cons c t =>
      have hc : Text.isDigit c = false := ht c rfl
      by_cases hdollar : c = '$'
      · subst hdollar
        rfl
      · simp [afterDigit, hc, hdollar, toTemplate_cons_of_ne hdollar]
  | cons c number ih =>
    have hc : Text.isDigit c = true := hdigits c (by simp)
    simp [afterDigit, hc, ih fun d hd => hdigits d (by simp [hd])]

theorem toTemplate_number (hnumber : Text.IsNumber number) (ht : Text.EndsNumber t) :
    toTemplate ('$' :: (number ++ t)) = '$' :: '\x7b' :: (number ++ '\x7d' :: toTemplate t) := by
  obtain ⟨c, digits, rfl, hc, hdigits⟩ := hnumber.exists_cons
  have hdollar : c ≠ '$' := by
    rintro rfl
    exact absurd hc (by decide)
  have hwhole : c ≠ '&' := by
    rintro rfl
    exact absurd hc (by decide)
  rw [List.cons_append, toTemplate, afterDollar_cons hdollar hwhole, if_pos hc,
    afterDigit_append hdigits ht]
  rfl

theorem toTemplate_dollar (hend : Text.EndsNumber t) (hdollar : t.head? ≠ some '$')
    (hwhole : t.head? ≠ some '&') : toTemplate ('$' :: t) = '$' :: '$' :: toTemplate t := by
  cases t with
  | nil => rfl
  | cons c t =>
    have hc : Text.isDigit c = false := hend c rfl
    simp only [List.head?_cons, ne_eq, Option.some.injEq] at hdollar hwhole
    rw [toTemplate, afterDollar_cons hdollar hwhole, if_neg (by simp [hc]),
      toTemplate_cons_of_ne hdollar]

/-- A number that letters follow, a dollar sign that nothing belongs to, and the whole match. -/
example : toTemplate (text "$12x$a$&") = text "$\x7b12\x7dx$$a$\x7b0\x7d" := by decide +kernel

end Replacement

namespace Template

variable {group? : Text → Option Nat} {m : Pattern.Match} {name t url : Text}

theorem ofText_dollars (t : Text) :
    ofText group? ('$' :: '$' :: t) = .char '$' :: ofText group? t := rfl

theorem inBraces_append (hname : '\x7d' ∉ name) (front t : Text) :
    inBraces group? front (name ++ '\x7d' :: t) =
      reference group? (front ++ name) ++ ofText group? t := by
  induction name generalizing front with
  | nil => simp [inBraces]
  | cons c name ih =>
    rw [List.mem_cons, not_or] at hname
    rw [List.cons_append, inBraces, ih hname.2, List.append_assoc, List.singleton_append]
    exact Ne.symm hname.1

theorem ofText_braces (hname : '\x7d' ∉ name) (t : Text) :
    ofText group? ('$' :: '\x7b' :: (name ++ '\x7d' :: t)) =
      reference group? name ++ ofText group? t := by
  simp [ofText, afterDollar, inBraces_append hname]

/-- The text of a reference to a number is the text of the group with this number. -/
theorem expand_reference_of_isNumber (p : Pattern) (hname : Text.IsNumber name) :
    expand (reference p.group? name) m url =
      if Text.decimal name < Pattern.numberLimit then m.group url (Text.decimal name) else [] := by
  rw [reference, Pattern.group?_of_isNumber p hname]
  split
  · exact List.append_nil _
  · rfl

end Template

namespace Replacement

variable {m : Pattern.Match} {p : Pattern} {url number t put : Text}

theorem expand_braces (p : Pattern) (hnumber : Text.IsNumber number) (t : Text) :
    (Template.ofText p.group? ('$' :: '\x7b' :: (number ++ '\x7d' :: t))).expand m url =
      (if Text.decimal number < Pattern.numberLimit then m.group url (Text.decimal number)
        else []) ++ (Template.ofText p.group? t).expand m url := by
  have hbrace : '\x7d' ∉ number := hnumber.not_mem (by decide)
  rw [Template.ofText_braces hbrace, Template.expand_append,
    Template.expand_reference_of_isNumber p hnumber]

/-- The template of a replacement expands to what the replacement stands for. -/
theorem StandsFor.expand_toTemplate (h : StandsFor m url t put)
    (hm : m.groups[0]? = some (some (m.start, m.stop))) :
    (Template.ofText p.group? (toTemplate t)).expand m url = put := by
  induction h with
  | nil => rfl
  | char hc _ ih =>
    rw [toTemplate_cons_of_ne hc, Template.ofText_cons_of_ne hc]
    exact congrArg (_ :: ·) ih
  | dollars _ ih =>
    rw [toTemplate_dollars, Template.ofText_dollars]
    exact congrArg (_ :: ·) ih
  | whole _ ih =>
    have hzero : Text.IsNumber ['0'] :=
      ⟨List.cons_ne_nil _ _, List.forall_mem_singleton.mpr (by decide)⟩
    have hgroup : m.group url 0 = Pattern.slice url (m.start, m.stop) := by
      rw [Pattern.Match.group, hm]
    rw [toTemplate_whole, expand_braces p hzero, ih, if_pos (by decide)]
    exact congrArg (· ++ _) hgroup
  | group hnumber hend hlimit hspan _ ih =>
    rw [toTemplate_number hnumber hend, expand_braces p hnumber, ih, if_pos hlimit,
      Pattern.Match.group, hspan]
  | missing hnumber hend hnone _ ih =>
    rw [toTemplate_number hnumber hend, expand_braces p hnumber, ih]
    rcases hnone with hlimit | hspan
    · rw [if_neg (Nat.not_lt.mpr hlimit), List.nil_append]
    · simp [Pattern.Match.group_of_forall_ne hspan]
  | dollar hend hdollar hwhole _ ih =>
    rw [toTemplate_dollar hend hdollar hwhole, Template.ofText_dollars]
    exact congrArg (_ :: ·) ih

theorem exists_standsFor_number (hnumber : Text.IsNumber number) (hend : Text.EndsNumber t)
    (h : StandsFor m url t put) : ∃ put, StandsFor m url ('$' :: (number ++ t)) put := by
  by_cases hlimit : Text.decimal number < Pattern.numberLimit
  · by_cases hspan : ∃ span, m.groups[Text.decimal number]? = some (some span)
    · obtain ⟨span, hspan⟩ := hspan
      exact ⟨_, .group hnumber hend hlimit hspan h⟩
    · exact ⟨put, .missing hnumber hend (.inr (not_exists.mp hspan)) h⟩
  · exact ⟨put, .missing hnumber hend (.inl (Nat.not_lt.mp hlimit)) h⟩

theorem exists_standsFor (m : Pattern.Match) (url : Text) (t : Text) :
    ∃ put, StandsFor m url t put := by
  induction hlength : t.length using Nat.strong_induction_on generalizing t with
  | _ n ih =>
    subst hlength
    rcases t with _ | ⟨c, t⟩
    · exact ⟨[], .nil⟩
    obtain ⟨put, hput⟩ := ih t.length (Nat.lt_succ_self _) t rfl
    by_cases hc : c = '$'
    · subst hc
      rcases t with _ | ⟨d, t⟩
      · exact ⟨_, .dollar (by simp [Text.EndsNumber]) (by simp) (by simp) hput⟩
      obtain ⟨behind, hbehind⟩ := ih t.length (by grind) t rfl
      by_cases hdollar : d = '$'
      · subst hdollar
        exact ⟨_, .dollars hbehind⟩
      by_cases hwhole : d = '&'
      · subst hwhole
        exact ⟨_, .whole hbehind⟩
      by_cases hd : Text.isDigit d = true
      · have hle := List.length_dropWhile_le Text.isDigit t
        obtain ⟨rest, hrest⟩ := ih (t.dropWhile Text.isDigit).length (by simp; omega) _ rfl
        have hread := exists_standsFor_number (Text.isNumber_cons hd t)
          (Text.endsNumber_dropWhile t) hrest
        rwa [List.cons_append, List.takeWhile_append_dropWhile] at hread
      · exact ⟨_, .dollar (by simpa [Text.EndsNumber] using hd) (by simpa using hdollar)
          (by simpa using hwhole) hput⟩
    · exact ⟨_, .char hc hput⟩

end Replacement

namespace Rule

/-- A rule leaves a URL alone that its pattern does not match. Otherwise it puts the one text that
its replacement stands for in place of the leftmost match, and nothing else changes. -/
theorem substitute_standsFor (r : Rule) (url : Text) :
    (r.isMatch url = false → r.substitute url = url) ∧
      ∀ m, r.pattern.find? url = some m →
        ∃ before after put,
          url = before ++ Pattern.slice url (m.start, m.stop) ++ after ∧
          before.length = m.start ∧
          (before ++ Pattern.slice url (m.start, m.stop)).length = m.stop ∧
          Replacement.StandsFor m url r.replacement put ∧
          (∀ other, Replacement.StandsFor m url r.replacement other → other = put) ∧
          r.substitute url = before ++ put ++ after := by
  constructor
  · intro h
    have hnone : r.pattern.find? url = none := by
      simpa [isMatch, Pattern.isMatch] using h
    rw [substitute, Pattern.substitute, hnone]
  · intro m hfind
    obtain ⟨-, -, hwhole⟩ := Pattern.find?_bounds hfind
    obtain ⟨before, after, hurl, rfl, rfl, hstart, hstop⟩ :=
      Pattern.exists_eq_append_of_find? hfind
    obtain ⟨put, hput⟩ := Replacement.exists_standsFor m url r.replacement
    have hexpand : r.template.expand m url = put := hput.expand_toTemplate hwhole
    refine ⟨_, _, put, hurl, hstart, hstop, hput, fun other hother => ?_, ?_⟩
    · exact (hother.expand_toTemplate (p := r.pattern) hwhole).symm.trans hexpand
    · rw [substitute_of_match hfind, hexpand]

end Rule

end RuleGate
