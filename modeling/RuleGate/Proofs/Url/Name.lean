import RuleGate.Proofs.Query.Decoding
import RuleGate.Proofs.Unicode.Normalization
import RuleGate.Proofs.Url.Alphabet

/-! # Names of letters, digits and hyphens

A host in ASCII letters, digits and hyphens without a label in Punycode is read as the name in
lower case, unless it is an address.
-/
namespace RuleGate

theorem Percent.decode_encode {t : Text} (h : ∀ c ∈ t, c.toNat < 0x80 ∧ c ≠ '%') :
    decode (Utf8.encode t) = Utf8.encode t := by
  induction t with
  | nil => rfl
  | cons c t ih =>
    obtain ⟨⟨hc, hpercent⟩, ht⟩ := List.forall_mem_cons.mp h
    have hbyte : c.toNat.toUInt8 ≠ 37 := fun heq => by
      have hnat := congrArg UInt8.toNat heq
      rw [Utf8.toNat_toUInt8 (by omega)] at hnat
      exact hpercent (Char.toNat_inj.mp hnat)
    have hcons : Utf8.encode (c :: t) = c.toNat.toUInt8 :: Utf8.encode t := by
      rw [Utf8.encode, List.flatMap_cons, Utf8.encodeChar, if_pos hc]
      rfl
    rw [hcons, decode_cons_of_ne hbyte, ih ht]

namespace Domain

open Unicode

variable {c : Char} {t label : Text}

theorem toNat_lt_of_mem_word (h : c ∈ word) : c.toNat < 0x80 := by
  have hall : word.all (·.toNat < 0x80) = true := by decide
  exact of_decide_eq_true (List.all_eq_true.mp hall c h)

/-- A name whose characters have a place in a name as they are, but for the case of letters, and no
label of which is in Punycode. -/
structure IsSimple (t : Text) : Prop where
  lower_mem : ∀ c ∈ t, Text.lowerChar c ∈ word
  no_code : ∀ label ∈ Text.splitAll '.' (Text.lower t), Text.dropHead? (text "xn--") label = none

instance (t : Text) : Decidable (IsSimple t) :=
  decidable_of_iff (t.all (Text.lowerChar · ∈ word) = true ∧
      ∀ label ∈ Text.splitAll '.' (Text.lower t), Text.dropHead? (text "xn--") label = none)
    ⟨fun h => ⟨by simpa using h.1, h.2⟩, fun h => ⟨by simpa using h.lower_mem, h.no_code⟩⟩

theorem toNat_lt_of_lowerChar_mem (h : Text.lowerChar c ∈ word) : c.toNat < 0x80 := by
  unfold Text.lowerChar at h
  split at h
  · rename_i hupper
    exact Nat.lt_of_le_of_lt hupper.2 (by decide)
  · exact toNat_lt_of_mem_word h

theorem IsSimple.mem_word (h : IsSimple t) : ∀ c ∈ Text.lower t, c ∈ word := by
  intro c hc
  obtain ⟨d, hd, rfl⟩ := List.mem_map.mp hc
  exact h.lower_mem d hd

theorem mapM_ofChar? (h : ∀ c ∈ t, c.toNat < 0x80) :
    t.mapM Mapping.ofChar? = some (t.map fun c => [Text.lowerChar c]) := by
  induction t with
  | nil => rfl
  | cons c t ih =>
    obtain ⟨hc, ht⟩ := List.forall_mem_cons.mp h
    have hchar : Mapping.ofChar? c = some [Text.lowerChar c] := if_pos hc
    rw [List.mapM_cons, hchar, ih ht]
    rfl

theorem map?_of_isSimple (h : IsSimple t) : map? t = some (Text.lower t) := by
  have hascii : ∀ c ∈ t, c.toNat < 0x80 := fun c hc =>
    toNat_lt_of_lowerChar_mem (h.lower_mem c hc)
  have hflat : (t.map fun c => [Text.lowerChar c]).flatten = Text.lower t :=
    List.map_eq_flatMap.symm
  have hnormal : normalize (Text.lower t) = Text.lower t := normalize_of_lt fun c hc =>
    Nat.lt_trans (toNat_lt_of_mem_word (h.mem_word c hc)) (by decide)
  have hplain : ¬ (Text.lower t).any isDenied = true :=
    Bool.eq_false_iff.mp <| List.any_eq_false.mpr fun c hc =>
      Bool.eq_false_iff.mp (isDenied_of_mem_word (h.mem_word c hc))
  unfold map?
  rw [mapM_ofChar? hascii, Option.bind_eq_bind, Option.bind_some, hflat, hnormal]
  exact if_neg hplain

theorem isAscii_of_mem_word (h : ∀ c ∈ label, c ∈ word) : isAscii label = true :=
  List.all_eq_true.mpr fun c hc => decide_eq_true (toNat_lt_of_mem_word (h c hc))

theorem joinersFit_of_mem_word (h : ∀ c ∈ label, c ∈ word) (before : Text) :
    joinersFit before label = true := by
  induction label generalizing before with
  | nil => rfl
  | cons c label ih =>
    obtain ⟨hc, hlabel⟩ := List.forall_mem_cons.mp h
    have hlt := toNat_lt_of_mem_word hc
    have hjoiner : (c.toNat != 0x200C && c.toNat != 0x200D) = true := by
      rw [Bool.and_eq_true, bne_iff_ne, bne_iff_ne]
      omega
    unfold joinersFit
    rw [hjoiner, ih hlabel]
    rfl

theorem startsWithMark_of_mem_word (h : ∀ c ∈ label, c ∈ word) : startsWithMark label = false := by
  cases label with
  | nil => rfl
  | cons c label =>
    have hlt := toNat_lt_of_mem_word (h c List.mem_cons_self)
    have hlow : decide (0x300 ≤ c.toNat) = false := decide_eq_false (by omega)
    simp [startsWithMark, hlow]

theorem isRightward_of_mem_word (h : ∀ c ∈ label, c ∈ word) : isRightward label = false := by
  refine List.any_eq_false.mpr fun c hc => ?_
  have hlt := toNat_lt_of_mem_word (h c hc)
  have hlow : decide (0x590 ≤ c.toNat) = false := decide_eq_false (by omega)
  simp [hlow]

theorem label?_of_mem_word (h : ∀ c ∈ label, c ∈ word)
    (hcode : Text.dropHead? (text "xn--") label = none) : label? label = some label := by
  have hlabel : isLabel label = true := by
    simp [isLabel, startsWithMark_of_mem_word h, joinersFit_of_mem_word h, isAscii_of_mem_word h]
  unfold label?
  rw [hcode]
  simp [hlabel]

theorem ascii?_of_isSimple (h : IsSimple t) : ascii? t = some (Text.lower t) := by
  have hword : ∀ label ∈ Text.splitAll '.' (Text.lower t), ∀ c ∈ label, c ∈ word :=
    fun label hlabel c hc => h.mem_word c (Text.subset_of_mem_splitAll hlabel hc)
  have hread := mapM_eq_some_self fun label hlabel =>
    label?_of_mem_word (hword label hlabel) (h.no_code label hlabel)
  have hleft : (Text.splitAll '.' (Text.lower t)).any isRightward = false :=
    List.any_eq_false.mpr fun label hlabel =>
      Bool.eq_false_iff.mp (isRightward_of_mem_word (hword label hlabel))
  have htext : (Text.splitAll '.' (Text.lower t)).map labelText =
      Text.splitAll '.' (Text.lower t) := by
    refine (List.map_congr_left fun label hlabel => ?_).trans (List.map_id _)
    exact if_pos (isAscii_of_mem_word (hword label hlabel))
  unfold ascii?
  rw [map?_of_isSimple h, Option.bind_eq_bind, Option.bind_some, hread, Option.bind_eq_bind,
    Option.bind_some, hleft, htext, Text.joinWith_splitAll]
  rfl

theorem ofText?_of_isSimple (h : IsSimple t) : ofText? t = some (Text.lower t) := by
  have hpercent : Text.lowerChar '%' ∉ word := by decide
  have hplain : ∀ c ∈ t, c.toNat < 0x80 ∧ c ≠ '%' := fun c hc =>
    ⟨toNat_lt_of_lowerChar_mem (h.lower_mem c hc), fun heq => hpercent (heq ▸ h.lower_mem c hc)⟩
  unfold ofText?
  rw [Percent.decode_encode hplain, Utf8.decode?_encode, Option.bind_eq_bind, Option.bind_some,
    ascii?_of_isSimple h]

end Domain

/-- The letters of such a host are brought into lower case, and nothing else happens to it. -/
theorem Host.parse_of_isSimple {t : Text} (h : Domain.IsSimple t) (hne : t ≠ [])
    (hnumber : endsInNumber (Text.lower t) = false) :
    parse t = .ok (.domain (Text.lower t)) := by
  have hbracket : bracketed? t = none := by
    match t with
    | [] => rfl
    | c :: t =>
      have hc : c ≠ '[' := by
        rintro rfl
        exact absurd (h.lower_mem _ List.mem_cons_self) (by decide)
      unfold bracketed?
      split
      · rename_i heq
        exact absurd (List.cons.inj heq).1 hc
      · rfl
  unfold parse
  rw [hbracket, Domain.ofText?_of_isSimple h]
  obtain ⟨c, rest, rfl⟩ := List.exists_cons_of_ne_nil hne
  exact if_neg (Bool.eq_false_iff.mp hnumber)

example : Host.parse (text "Up-1.Example.") = .ok (.domain (text "up-1.example.")) :=
  Host.parse_of_isSimple (by decide) (by decide) (by decide)

end RuleGate
