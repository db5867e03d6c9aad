import RuleGate.Proofs.Via.Relay
import RuleGate.Server

/-! # Identities that no header can hold

The lines that a gateway reads are text, so a header can hold the chain that it writes exactly if a
header can hold its own hop. The settings name a hop that only must not be blank: with a control
character in it, every request to a backend fails.
-/
namespace RuleGate

namespace Via

theorem isFieldByte_of_isTextByte {b : UInt8} (h : isTextByte b = true) : isFieldByte b = true := by
  rw [isTextByte_iff] at h
  unfold isFieldByte
  simp only [Bool.or_eq_true, Bool.and_eq_true, decide_eq_true_eq, UInt8.le_iff_toNat_le,
    bne_iff_ne, beq_iff_eq, ne_eq, ← UInt8.toNat_inj]
  change (32 ≤ b.toNat ∧ ¬ b.toNat = 127) ∨ b.toNat = 9
  omega

theorem isFieldValue_of_isSome_fieldText? {v : Bytes} (h : (fieldText? v).isSome = true) :
    isFieldValue v = true := by
  rw [isSome_fieldText?, List.all_eq_true] at h
  exact List.all_eq_true.mpr fun b hb => isFieldByte_of_isTextByte (h b hb)

/-- A header can hold what a gateway sends exactly if it can hold the hop of the gateway alone. -/
theorem isFieldValue_outbound (hop : Text) (h : Headers) :
    isFieldValue (outbound hop h) = true ↔ isFieldValue (Utf8.encode hop) = true := by
  have hsep : ∀ b ∈ separator, isFieldByte b = true := by decide +kernel
  rw [outbound_eq, isFieldValue, List.all_eq_true, forall_mem_intercalate hsep,
    List.forall_mem_append, List.forall_mem_singleton, isFieldValue, List.all_eq_true]
  refine and_iff_right fun line hline => ?_
  exact List.all_eq_true.mp (isFieldValue_of_isSome_fieldText? (List.mem_filter.mp hline).2)

end Via

namespace Rule

variable {rule : Rule} {hop url : Text} {request : Request} {backend : Backend}

theorem outbound_eq_invalidVia_iff (rule : Rule) (hop url : Text) (request : Request) :
    rule.outbound hop url request = .error .invalidVia ↔
      (∃ d, Destination.ofUrl (rule.substitute url) = .ok d) ∧
        isFieldValue (Utf8.encode hop) = false := by
  rw [← Bool.not_eq_true, ← Via.isFieldValue_outbound hop request.headers, Bool.not_eq_true]
  cases hd : Destination.ofUrl (rule.substitute url) with
  | error fault => simp [outbound_of_no_backend hd]
  | ok d =>
    cases hvia : isFieldValue (Via.outbound hop request.headers) with
    | false => simp [outbound_of_invalid_via hd hvia]
    | true => simp [outbound_of_valid hd hvia]

/-- Whether a Via field can be written depends on the hop alone, and is found out only where there
is a backend. -/
theorem forward_eq_invalidVia_iff :
    rule.forward hop url request backend = .error .invalidVia ↔
      (∃ d, Destination.ofUrl (rule.substitute url) = .ok d) ∧
        isFieldValue (Utf8.encode hop) = false := by
  rw [← outbound_eq_invalidVia_iff rule hop url request]
  unfold forward
  cases ho : rule.outbound hop url request with
  | error fault =>
    change (Except.error fault : Except ForwardFault Response) = .error .invalidVia ↔ _
    rw [Except.error.injEq, Except.error.injEq]
  | ok o =>
    refine ⟨fun h => ?_, nofun⟩
    change o.send backend = _ at h
    unfold Outbound.send Outbound.receive at h
    cases hanswer : backend o.transport o.request with
    | none => simp [hanswer] at h
    | some response => simp [hanswer] at h

end Rule

namespace Server

variable {s : Server} {hop : Text}

/-- A server writes its Via field on every request that it forwards, exactly if a header can hold
the identity in its settings. -/
theorem forward_ne_invalidVia_iff (hhop : s.settings.viaIdentity = some hop)
    (host : Option Text) :
    (∀ (rule : Rule) (url : Text) (request : Request) (backend : Backend),
      rule.forward (s.gateway host).hop url request backend ≠ .error .invalidVia) ↔
        isFieldValue (Utf8.encode hop) = true := by
  have hgateway : (s.gateway host).hop = hop := by rw [gateway, hhop, Option.getD_some]
  rw [hgateway]
  constructor
  · intro h
    refine Classical.byContradiction fun hinvalid => ?_
    exact h _ _ ⟨text "GET", .relative ⟨text "/x"⟩, [], Body.empty⟩ (fun _ _ => none)
      (Rule.forward_eq_invalidVia_iff.mpr
        ⟨⟨_, Relay.destination_of_loopback⟩, Bool.eq_false_iff.mpr hinvalid⟩)
  · intro hvalid rule url request backend h
    rw [(Rule.forward_eq_invalidVia_iff.mp h).2] at hvalid
    exact absurd hvalid nofun

/-- An identity with a letter outside ASCII and a tab. -/
theorem forward_ne_invalidVia_iff_tab :
    let s : Server := ⟨{ viaIdentity := some (text "1.1\tgé1") }, [], none⟩
    s.settings.viaIdentity = some (text "1.1\tgé1") ∧
    ∀ (rule : Rule) (url : Text) (request : Request) (backend : Backend),
      rule.forward (s.gateway none).hop url request backend ≠ .error .invalidVia := by
  intro s
  exact ⟨rfl, (forward_ne_invalidVia_iff (s := s) rfl none).mpr (by decide +kernel)⟩

/-- An identity that ends in a line feed passes for one that is not blank. -/
theorem forward_eq_invalidVia_line_feed :
    ¬ ∀ (s : Server) (hop : Text) (host : Option Text),
      s.settings.problems = [] → s.settings.viaIdentity = some hop →
        ∀ (rule : Rule) (url : Text) (request : Request) (backend : Backend),
          rule.forward (s.gateway host).hop url request backend ≠ .error .invalidVia := by
  intro h
  exact h ⟨{ viaIdentity := some (text "1.1 gw1\n") }, [], none⟩ _ none (by decide +kernel) rfl _ _
    ⟨text "GET", .relative ⟨text "/x"⟩, [], Body.empty⟩ (fun _ _ => none)
    (Rule.forward_eq_invalidVia_iff.mpr ⟨⟨_, Relay.destination_of_loopback⟩, by decide +kernel⟩)

end Server

end RuleGate
