import RuleGate.Proofs.Forward.Outbound
import RuleGate.Proofs.Text.Join

/-! # The chain that is sent

A gateway writes one chain: the lines of the field that are text and not blank, in their order, and
its own hop behind them. The chain is complete if it has all lines that are not blank; it falls
short of that exactly by the lines which are no text.
-/
namespace RuleGate

namespace Via

variable {h : Headers} {hop : Text} {v w x line : Bytes} {t : Text}

/-! ## Lines of the field -/

def isBlankByte (b : UInt8) : Bool := b == 32 || b == 9

def isTextByte (b : UInt8) : Bool := (32 ≤ b && b < 127) || b == 9

def stripped (v : Bytes) : Bytes := strip isBlankByte v

/-- A value that loses nothing as a line of the field. -/
def Bare (v : Bytes) : Prop := v ≠ [] ∧ stripped v = v

instance : DecidablePred Bare := fun v => inferInstanceAs (Decidable (v ≠ [] ∧ stripped v = v))

/-- The lines of the field that are not blank, without the blanks at their ends. -/
def lines (h : Headers) : List Bytes :=
  ((h.getAll (text "via")).map stripped).filter fun line => !line.isEmpty

def separator : Bytes := Utf8.encode (text ", ")

/-- The chain of all lines that are not blank and of the gateways that a request has passed. -/
def complete (h : Headers) (hops : List Text) : Bytes :=
  List.intercalate separator (lines h ++ hops.map Utf8.encode)

def texts (h : Headers) : List Text :=
  (((h.getAll (text "via")).filterMap fieldText?).map Text.trim).filter fun t => !t.isEmpty

theorem fieldText?_eq (v : Bytes) :
    fieldText? v =
      if v.all isTextByte then some (v.map fun b => Char.ofNat b.toNat) else none := rfl

theorem isSome_fieldText? (v : Bytes) : (fieldText? v).isSome = v.all isTextByte := by
  rw [fieldText?_eq]
  split <;> simp [*]

theorem isTextByte_iff {b : UInt8} :
    isTextByte b = true ↔ (32 ≤ b.toNat ∧ b.toNat < 127) ∨ b.toNat = 9 := by
  unfold isTextByte
  simp [UInt8.le_iff_toNat_le, UInt8.lt_iff_toNat_lt, ← UInt8.toNat_inj]

theorem isBlankByte_iff {b : UInt8} : isBlankByte b = true ↔ b.toNat = 32 ∨ b.toNat = 9 := by
  unfold isBlankByte
  simp [← UInt8.toNat_inj]

theorem isTextByte_of_isBlankByte (b : UInt8) (hb : isBlankByte b = true) :
    isTextByte b = true := by
  rw [isBlankByte_iff] at hb
  rw [isTextByte_iff]
  omega

theorem isBlank_ofNat {b : UInt8} (hb : isTextByte b = true) :
    Text.isBlank (Char.ofNat b.toNat) = isBlankByte b := by
  rw [isTextByte_iff] at hb
  rw [Bool.eq_iff_iff, isBlankByte_iff]
  unfold Text.isBlank
  rw [Utf8.toNat_ofNat_of_ascii (by omega)]
  simp only [Bool.or_eq_true, Bool.and_eq_true, decide_eq_true_eq, beq_iff_eq]
  omega

theorem isSome_fieldText?_stripped (v : Bytes) :
    (fieldText? (stripped v)).isSome = (fieldText? v).isSome := by
  rw [isSome_fieldText?, isSome_fieldText?]
  exact all_strip isTextByte_of_isBlankByte v

theorem trim_of_fieldText? (h : fieldText? v = some t) :
    Text.trim t = (stripped v).map fun b => Char.ofNat b.toNat := by
  rw [fieldText?_eq] at h
  split at h
  · rename_i hv
    obtain rfl := Option.some.inj h
    have hblank : ∀ b ∈ v, (Text.isBlank ∘ fun b => Char.ofNat b.toNat) b = isBlankByte b :=
      fun b hb => isBlank_ofNat (List.all_eq_true.mp hv b hb)
    calc Text.trim (v.map fun b => Char.ofNat b.toNat)
        = strip Text.isBlank (v.map fun b => Char.ofNat b.toNat) := rfl
      _ = (stripped v).map fun b => Char.ofNat b.toNat := by
        rw [strip_map, strip_congr hblank]
        rfl
  · exact absurd h nofun

theorem encode_trim_of_fieldText? (h : fieldText? v = some t) :
    Utf8.encode (Text.trim t) = stripped v := by
  have hv : v.all isTextByte = true := by rw [← isSome_fieldText?, h]; rfl
  rw [trim_of_fieldText? h]
  refine Utf8.encode_map_of_ascii fun b hb => ?_
  have hb := isTextByte_iff.mp (List.all_eq_true.mp hv b ((strip_sublist _ v).subset hb))
  omega

theorem bare_of_mem_lines (hline : line ∈ lines h) : Bare line := strip_of_mem_filter hline

/-- A gateway reads the lines that are text, and no others. -/
theorem map_encode_texts (h : Headers) :
    (texts h).map Utf8.encode = (lines h).filter fun line => (fieldText? line).isSome := by
  unfold texts lines
  induction h.getAll (text "via") with
  | nil => rfl
  | cons v vs ih =>
    cases ht : fieldText? v with
    | none =>
      have hline : (fieldText? (stripped v)).isSome = false := by
        rw [isSome_fieldText?_stripped, ht]; rfl
      rw [List.filterMap_cons_none ht, ih, List.map_cons, List.filter_cons]
      split
      · rw [List.filter_cons_of_neg (by simp [hline])]
      · rfl
    | some t =>
      have hline : (fieldText? (stripped v)).isSome = true := by
        rw [isSome_fieldText?_stripped, ht]; rfl
      have hempty : (Text.trim t).isEmpty = (stripped v).isEmpty := by
        rw [trim_of_fieldText? ht, List.isEmpty_map]
      rw [List.filterMap_cons_some ht, List.map_cons, List.map_cons, List.filter_cons,
        List.filter_cons, hempty]
      split
      · rw [List.map_cons, ih, encode_trim_of_fieldText? ht,
          List.filter_cons_of_pos (by simp [hline])]
      · exact ih

/-! ## The chain -/

theorem trim_of_mem_texts (ht : t ∈ texts h) : t ≠ [] ∧ strip Text.isBlank t = t :=
  strip_of_mem_filter ht

theorem inbound_eq (h : Headers) :
    inbound h = match texts h with
      | [] => none
      | ts => some (Text.joinWith (text ", ") ts) := rfl

theorem chain_some {before : Text} (hne : before ≠ []) (htrim : Text.trim before = before) :
    chain hop (some before) = before ++ text ", " ++ hop := by
  unfold chain
  rw [Option.map_some, htrim]
  cases before with
  | nil => exact absurd rfl hne
  | cons c before => rfl

theorem chain_inbound (hop : Text) (h : Headers) :
    chain hop (inbound h) = List.intercalate (text ", ") (texts h ++ [hop]) := by
  rw [inbound_eq]
  cases hts : texts h with
  | nil => simp [chain]
  | cons t ts =>
    obtain ⟨hne, htrim⟩ := strip_intercalate (List.cons_ne_nil t ts)
      (fun u hu => trim_of_mem_texts (by rw [hts]; exact hu)) (text ", ")
    rw [intercalate_concat_of_ne_nil (List.cons_ne_nil t ts)]
    dsimp only
    rw [Text.joinWith_eq_intercalate]
    exact chain_some hne htrim

/-- What is sent are the lines that are text, in their order, with the hop of the gateway behind
them. -/
theorem outbound_eq (hop : Text) (h : Headers) :
    outbound hop h = List.intercalate separator
      ((lines h).filter (fun line => (fieldText? line).isSome) ++ [Utf8.encode hop]) := by
  unfold outbound
  rw [chain_inbound, Utf8.encode_intercalate, List.map_append, map_encode_texts]
  rfl

theorem outbound_congr {k : Headers} (hk : k.getAll (text "via") = h.getAll (text "via"))
    (hop : Text) : outbound hop k = outbound hop h := by
  unfold outbound inbound
  rw [hk]

/-! ## Completeness -/

theorem complete_concat (h : Headers) (hops : List Text) (hop : Text) :
    complete h (hops ++ [hop]) =
      List.intercalate separator ((lines h ++ hops.map Utf8.encode) ++ [Utf8.encode hop]) := by
  unfold complete
  rw [List.map_append, List.map_singleton, List.append_assoc]

theorem complete_concat_of_ne_nil {hops : List Text} (hne : hops ≠ []) (h : Headers) (hop : Text) :
    complete h (hops ++ [hop]) = complete h hops ++ separator ++ Utf8.encode hop := by
  have hparts : lines h ++ hops.map Utf8.encode ≠ [] :=
    List.append_ne_nil_of_right_ne_nil _ (by simpa using hne)
  rw [complete_concat, intercalate_concat_of_ne_nil hparts]
  rfl

theorem isSome_fieldText?_complete (h : Headers) (hops : List Text) :
    (fieldText? (complete h hops)).isSome ↔
      ∀ part ∈ lines h ++ hops.map Utf8.encode, (fieldText? part).isSome := by
  have hsep : separator.all isTextByte = true := by decide +kernel
  simp only [isSome_fieldText?, List.all_eq_true]
  exact forall_mem_intercalate (List.all_eq_true.mp hsep) _

/-- The chain is complete exactly if every line that is not blank is text. -/
theorem outbound_eq_complete_iff (hop : Text) (h : Headers) :
    outbound hop h = complete h [hop] ↔ ∀ line ∈ lines h, (fieldText? line).isSome := by
  rw [outbound_eq]
  exact intercalate_filter_concat_eq_iff (by decide) (lines h) _

/-- Nothing is sent that is not in the complete chain, and in its order there. -/
theorem outbound_sublist_complete (hop : Text) (h : Headers) :
    (outbound hop h).Sublist (complete h [hop]) := by
  rw [outbound_eq, ← List.nil_append [hop], complete_concat, intercalate_concat,
    intercalate_concat, List.map_nil, List.append_nil]
  exact (List.filter_sublist.flatMap _).append_right _

theorem outbound_of_line (hw : h.getAll (text "via") = [w]) (hop : Text) :
    outbound hop h =
      if stripped w ≠ [] ∧ (fieldText? w).isSome then
        stripped w ++ separator ++ Utf8.encode hop
      else Utf8.encode hop := by
  have hlines : lines h = if stripped w ≠ [] then [stripped w] else [] := by
    unfold lines
    rw [hw]
    by_cases hne : stripped w = [] <;> simp [hne]
  rw [outbound_eq, intercalate_concat, hlines]
  by_cases hne : stripped w = []
  · simp [hne]
  · cases htext : (fieldText? w).isSome with
    | true => simp [hne, isSome_fieldText?_stripped, htext]
    | false => simp [hne, isSome_fieldText?_stripped, htext]

end Via

end RuleGate
