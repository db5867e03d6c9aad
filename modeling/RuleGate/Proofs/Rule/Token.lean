import RuleGate.Proofs.Result
import RuleGate.Proofs.Rule.Grammar
import RuleGate.Proofs.Text.Digits

/-! # Reading single flags

Each text that is read as a flag is the text of one token, and the flags are changed by the token
alone. A code is read as the number that its digits stand for.
-/
namespace RuleGate

namespace Status

variable {code : Text}

theorem ofText?_eq (code : Text) :
    ofText? code =
      if (digits code).isEmpty || !(digits code).all Text.isDigit then none
      else ofNat? (Text.decimal (digits code)) := by
  unfold ofText? digits
  split
  · rfl
  · rename_i hne
    have hplus : code.head? ≠ some '+' := fun h => by
      obtain ⟨r, hr⟩ := List.head?_eq_some_iff.mp h
      exact hne r hr
    rw [if_neg hplus]

theorem ofText?_of_isNumeral (h : IsNumeral code) :
    ofText? code = ofNat? (Text.decimal (digits code)) := by
  rw [ofText?_eq, if_neg (by simp [h.ne_nil, h.all_isDigit])]

theorem isSome_ofText?_iff : (ofText? code).isSome = true ↔ IsNumeral code := by
  constructor
  · intro h
    rw [ofText?_eq] at h
    split at h
    · exact absurd h nofun
    · rename_i hdigits
      simp only [Bool.or_eq_true, Bool.not_eq_true', not_or, List.isEmpty_iff,
        Bool.not_eq_false] at hdigits
      unfold ofNat? at h
      split at h
      · rename_i hbounds
        exact ⟨hdigits.1, hdigits.2, hbounds.1, hbounds.2⟩
      · exact absurd h nofun
  · intro h
    rw [ofText?_of_isNumeral h, ofNat?, dif_pos ⟨h.atLeast, h.below⟩]
    rfl

theorem digits_of_isCode (h : IsCode code) : digits code = code := by
  refine if_neg fun hplus => ?_
  obtain ⟨r, rfl⟩ := List.head?_eq_some_iff.mp hplus
  have hall := h.all_isDigit
  rw [List.all_cons] at hall
  exact absurd hall (by simp [show Text.isDigit '+' = false from by decide])

theorem IsCode.isNumeral (h : IsCode code) : IsNumeral code := by
  have hlt := Text.decimalFrom_lt h.all_isDigit 0
  have hpos : code ≠ [] := List.ne_nil_of_length_pos (by rw [h.length_eq]; decide)
  rw [h.length_eq] at hlt
  rw [← digits_of_isCode h] at hpos hlt
  exact ⟨hpos, by rw [digits_of_isCode h]; exact h.all_isDigit,
    by rw [digits_of_isCode h]; exact h.atLeast, hlt⟩

end Status

namespace FlagToken

theorem toText_ne_host (t : FlagToken) (filter : Text) : t.toText ≠ 'H' :: '=' :: filter := by
  cases t with
  | redirect code => cases code <;> simp [toText]
  | contentType value => cases value <;> simp [toText]
  | _ => simp [toText]

theorem toText_injective : Function.Injective toText := by
  intro t u h
  rcases t with _ | _ | _ | _ | _ | _ | (_ | code) | (_ | value) <;>
    rcases u with _ | _ | _ | _ | _ | _ | (_ | code') | (_ | value') <;>
      simp_all [toText]

end FlagToken

namespace Flags

variable {f g : Flags} {t : FlagToken} {written : Text}

def add (f : Flags) (t : FlagToken) : Flags where
  noCase := f.noCase || decide (t = .noCase)
  last := f.last || decide (t = .last)
  proxy := f.proxy || decide (t = .proxy)
  redirect := t.status?.or f.redirect
  forbidden := f.forbidden || decide (t = .forbidden)
  gone := f.gone || decide (t = .gone)
  contentType := (t.contentType?.map Utf8.encode).or f.contentType
  host := f.host

theorem contentTypeOf_eq {value : Text}
    (h : isFieldValue (Utf8.encode (Text.trim value)) = true) :
    contentTypeOf value =
      .ok (Utf8.encode (if (Text.trim value).isEmpty then plainText else Text.trim value)) := by
  unfold contentTypeOf
  by_cases hempty : (Text.trim value).isEmpty = true
  · rw [if_pos hempty]
    exact if_pos (by decide +kernel)
  · rw [if_neg hempty]
    exact if_pos h

/-- A valid token is read as it is written. -/
theorem token_toText (h : t.Valid Status.IsNumeral) (f : Flags) :
    f.token t.toText = .ok (f.add t) := by
  cases t with
  | redirect code =>
    cases code with
    | none => simp [FlagToken.toText, token, add, FlagToken.status?, FlagToken.contentType?]
    | some code =>
      have hread := Status.ofText?_of_isNumeral h
      obtain ⟨status, hstatus⟩ := Option.isSome_iff_exists.mp (Status.isSome_ofText?_iff.mpr h)
      rw [hstatus] at hread
      simp [FlagToken.toText, token, add, FlagToken.status?, FlagToken.contentType?, hstatus,
        ← hread]
  | contentType value =>
    have hread : f.token (FlagToken.contentType value).toText =
        (contentTypeOf (value.getD [])).map fun v => { f with contentType := some v } := by
      cases value <;> simp [FlagToken.toText, token]
    have hvalue : isFieldValue (Utf8.encode (Text.trim (value.getD []))) = true := by
      cases value with
      | none => rfl
      | some value => exact h
    rw [hread, contentTypeOf_eq hvalue]
    simp [Except.map, add, FlagToken.status?, FlagToken.contentType?, plainText]
  | _ => simp [FlagToken.toText, token, add, FlagToken.status?, FlagToken.contentType?]

theorem isFieldValue_of_contentTypeOf {value : Text} {v : Bytes} (h : contentTypeOf value = .ok v) :
    isFieldValue (Utf8.encode (Text.trim value)) = true := by
  unfold contentTypeOf at h
  by_cases hempty : (Text.trim value).isEmpty = true
  · rw [List.isEmpty_iff.mp hempty]
    rfl
  · rw [if_neg hempty] at h
    by_contra hvalue
    rw [if_neg hvalue] at h
    exact absurd h nofun

/-- What is read without an error is a valid token. -/
theorem exists_of_token (h : f.token written = .ok g) :
    ∃ t : FlagToken, t.toText = written ∧ t.Valid Status.IsNumeral := by
  unfold token at h
  split at h
  · exact ⟨.blank, rfl, trivial⟩
  · exact ⟨.noCase, rfl, trivial⟩
  · exact ⟨.last, rfl, trivial⟩
  · exact ⟨.proxy, rfl, trivial⟩
  · exact ⟨.forbidden, rfl, trivial⟩
  · exact ⟨.gone, rfl, trivial⟩
  · exact ⟨.redirect none, rfl, trivial⟩
  · rename_i code
    split at h
    · rename_i status hstatus
      exact ⟨.redirect (some code), rfl, Status.isSome_ofText?_iff.mp (by rw [hstatus]; rfl)⟩
    · exact absurd h nofun
  · exact ⟨.contentType none, rfl, trivial⟩
  · rename_i value
    obtain ⟨v, hvalue, -⟩ := map_eq_ok.mp h
    exact ⟨.contentType (some value), rfl, isFieldValue_of_contentTypeOf hvalue⟩
  · exact absurd h nofun

end Flags

end RuleGate
