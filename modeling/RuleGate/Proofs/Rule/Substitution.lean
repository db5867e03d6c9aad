import RuleGate.Rule

/-! # Substitutions that begin as the replacement is written

Up to its first dollar sign a replacement stands for itself. Where a pattern matches at the
beginning of a URL, what is put in place of the match therefore begins with this part of the
replacement, whatever the URL is.
-/
namespace RuleGate

namespace Replacement

theorem toTemplate_cons_of_ne {c : Char} (h : c ≠ '$') (t : Text) :
    toTemplate (c :: t) = c :: toTemplate t := by
  rw [toTemplate]
  exact h

theorem toTemplate_append {front : Text} (h : '$' ∉ front) (back : Text) :
    toTemplate (front ++ back) = front ++ toTemplate back := by
  induction front with
  | nil => rfl
  | cons c front ih =>
    rw [List.mem_cons, not_or] at h
    rw [List.cons_append, toTemplate_cons_of_ne (Ne.symm h.1), ih h.2, List.cons_append]

end Replacement

namespace Template

variable {group? : Text → Option Nat}

theorem ofText_cons_of_ne {c : Char} (h : c ≠ '$') (t : Text) :
    ofText group? (c :: t) = .char c :: ofText group? t := by
  rw [ofText]
  exact h

theorem ofText_append {front : Text} (h : '$' ∉ front) (back : Text) :
    ofText group? (front ++ back) = front.map .char ++ ofText group? back := by
  induction front with
  | nil => rfl
  | cons c front ih =>
    rw [List.mem_cons, not_or] at h
    rw [List.cons_append, ofText_cons_of_ne (Ne.symm h.1), ih h.2, List.map_cons, List.cons_append]

theorem expand_append (t u : Template) (m : Pattern.Match) (subject : Text) :
    expand (t ++ u) m subject = t.expand m subject ++ u.expand m subject := List.flatMap_append

theorem expand_map_char (t : Text) (m : Pattern.Match) (subject : Text) :
    expand (t.map .char) m subject = t := by
  induction t with
  | nil => rfl
  | cons c t ih => exact congrArg (c :: ·) ih

end Template

namespace Rule

variable {r : Rule} {url front back : Text} {m : Pattern.Match}

theorem substitute_of_match (h : r.pattern.find? url = some m) :
    r.substitute url =
      url.take m.start ++ r.template.expand m url ++ url.drop m.stop := by
  unfold substitute Pattern.substitute
  rw [h]

/-- A match at the beginning puts the replacement up to its first dollar sign in front. -/
theorem exists_substitute_eq_append (hreplacement : r.replacement = front ++ back)
    (hfront : '$' ∉ front) (hmatch : r.pattern.find? url = some m) (hstart : m.start = 0) :
    ∃ rest, r.substitute url = front ++ rest := by
  rw [substitute_of_match hmatch, hstart, List.take_zero, List.nil_append, template, hreplacement,
    Replacement.toTemplate_append hfront, Template.ofText_append hfront, Template.expand_append,
    Template.expand_map_char, List.append_assoc]
  exact ⟨_, rfl⟩

end Rule

end RuleGate
