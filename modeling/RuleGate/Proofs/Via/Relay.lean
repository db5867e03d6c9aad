import RuleGate.Proofs.Rule.Directive
import RuleGate.Proofs.Via.Chain

/-! # Chains through several gateways

A request may pass gateway after gateway, each of which sends it on by a rule of its own and with
its own hop. The next one gets the Via field that the one before it has sent; whatever else happens
on the way is left open. A hop is lost as soon as a chain cannot be read.
-/
namespace RuleGate

/-- A request that has passed gateways with these hops has become another. -/
inductive Relay (request : Request) : List Text → Request → Prop where
  | start : Relay request [] request
  | pass {hops : List Text} {sent received : Request} {rule : Rule} {hop url : Text} {o : Outbound}
      (before : Relay request hops sent)
      (hvia : received.headers.getAll (text "via") = sent.headers.getAll (text "via"))
      (ho : rule.outbound hop url received = .ok o) : Relay request (hops ++ [hop]) o.request

namespace Via

/-- What the gateways get can be read as a whole: the lines of the field and the hops of all
gateways but the last are text, and no chain on the way has blanks at its ends. -/
structure Unbroken (h : Headers) (hops : List Text) : Prop where
  isText : ∀ part ∈ lines h ++ hops.dropLast.map Utf8.encode, (fieldText? part).isSome
  bare : ∀ before, before ≠ [] → before <+: hops.dropLast → Bare (complete h before)

variable {h k : Headers} {hops : List Text} {hop : Text} {w x : Bytes}

theorem unbroken_singleton (h : Headers) (hop : Text) :
    Unbroken h [hop] ↔ ∀ line ∈ lines h, (fieldText? line).isSome := by
  refine ⟨fun hall => by simpa using hall.isText, fun htext => ⟨by simpa using htext, ?_⟩⟩
  intro before hne hfront
  exact absurd (List.prefix_nil.mp hfront) hne

theorem unbroken_concat (hne : hops ≠ []) (h : Headers) (hop : Text) :
    Unbroken h (hops ++ [hop]) ↔
      Unbroken h hops ∧ (fieldText? (complete h hops)).isSome ∧ Bare (complete h hops) := by
  obtain ⟨first, last, rfl⟩ := (List.eq_nil_or_concat' hops).resolve_left hne
  rw [isSome_fieldText?_complete]
  constructor
  · rintro ⟨htext, hbare⟩
    rw [List.dropLast_concat] at htext hbare
    refine ⟨⟨fun part hpart => htext part ?_, fun before hbefore hfront => ?_⟩, htext,
      hbare _ hne List.prefix_rfl⟩
    · rw [List.dropLast_concat] at hpart
      rw [List.map_append, ← List.append_assoc]
      exact List.mem_append_left _ hpart
    · rw [List.dropLast_concat] at hfront
      exact hbare before hbefore (hfront.trans (List.prefix_append first [last]))
  · rintro ⟨⟨-, hbare⟩, htext, hlast⟩
    rw [List.dropLast_concat] at hbare
    refine ⟨by rwa [List.dropLast_concat], fun before hbefore hfront => ?_⟩
    rw [List.dropLast_concat, List.prefix_concat_iff] at hfront
    rcases hfront with rfl | hfront
    · exact hlast
    · exact hbare before hbefore hfront

/-- Where no hop but the last has blanks at its ends, only what is no text breaks a chain. -/
theorem unbroken_iff_of_bare (hbare : ∀ hop ∈ hops.dropLast, Bare (Utf8.encode hop))
    (h : Headers) :
    Unbroken h hops ↔
      ∀ part ∈ lines h ++ hops.dropLast.map Utf8.encode, (fieldText? part).isSome := by
  refine ⟨Unbroken.isText, fun htext => ⟨htext, fun before hne hfront => ?_⟩⟩
  refine strip_intercalate (List.append_ne_nil_of_right_ne_nil _ (by simpa using hne))
    (fun part hpart => ?_) separator
  rcases List.mem_append.mp hpart with hline | hhop
  · exact bare_of_mem_lines hline
  · obtain ⟨hop, hmem, rfl⟩ := List.mem_map.mp hhop
    exact hbare hop (hfront.subset hmem)

theorem outbound_eq_append_iff (hw : k.getAll (text "via") = [w]) (hsub : w.Sublist x) :
    outbound hop k = x ++ separator ++ Utf8.encode hop ↔
      w = x ∧ (fieldText? x).isSome ∧ Bare x := by
  rw [outbound_of_line hw]
  constructor
  · intro heq
    split at heq
    · rename_i hread
      have hstripped : stripped w = x := List.append_cancel_right (List.append_cancel_right heq)
      obtain rfl : w = x := hsub.antisymm (hstripped ▸ strip_sublist _ w)
      exact ⟨rfl, hread.2, hstripped ▸ hread.1, hstripped⟩
    · have hlength := congrArg List.length heq
      have hsep : separator.length = 2 := by decide +kernel
      simp only [List.length_append] at hlength
      omega
  · rintro ⟨rfl, htext, hne, hstripped⟩
    rw [hstripped, if_pos ⟨hne, htext⟩]

/-- A gateway behind others sends at most the complete chain, and all of it exactly if the chain
that it gets is complete and can be read. -/
theorem outbound_concat (hne : hops ≠ []) (hw : k.getAll (text "via") = [w])
    (hsub : w.Sublist (complete h hops)) (hop : Text) :
    (outbound hop k).Sublist (complete h (hops ++ [hop])) ∧
      (outbound hop k = complete h (hops ++ [hop]) ↔
        w = complete h hops ∧ (fieldText? (complete h hops)).isSome ∧ Bare (complete h hops)) := by
  rw [complete_concat_of_ne_nil hne]
  refine ⟨?_, outbound_eq_append_iff hw hsub⟩
  rw [outbound_of_line hw]
  split
  · exact (((strip_sublist _ w).trans hsub).append_right _).append_right _
  · exact List.sublist_append_right _ _

end Via

theorem Destination.ofUrl_loopback :
    ofUrl (text "http://[::1]/y") =
      .ok ⟨.plain, .absolute (text "http") (text "[::1]") ⟨text "/y"⟩⟩ := by
  cbv

namespace Relay

variable {request r : Request} {hops : List Text}

theorem getAll_of_outbound {rule : Rule} {hop url : Text} {o : Outbound}
    (h : rule.outbound hop url request = .ok o) :
    o.request.headers.getAll (text "via") = [Via.outbound hop request.headers] := by
  rw [Rule.headers_of_outbound h, Headers.getAll_outbound]

theorem eq_of_nil (h : Relay request [] r) : r = request := by
  generalize hnone : ([] : List Text) = hops at h
  cases h with
  | start => rfl
  | pass => exact absurd hnone.symm (List.append_ne_nil_of_right_ne_nil _ (List.cons_ne_nil _ _))

/-- What a request has of the complete chain: nothing else is in it, and all of it as long as no
chain on the way is broken. -/
theorem exists_via (h : Relay request hops r) (hne : hops ≠ []) :
    ∃ v, r.headers.getAll (text "via") = [v] ∧ v.Sublist (Via.complete request.headers hops) ∧
      (v = Via.complete request.headers hops ↔ Via.Unbroken request.headers hops) := by
  induction h with
  | start => exact absurd rfl hne
  | @pass hops sent received rule hop url o before hvia ho ih =>
    refine ⟨_, getAll_of_outbound ho, ?_⟩
    cases hops with
    | nil =>
      obtain rfl := eq_of_nil before
      rw [List.nil_append, Via.unbroken_singleton, Via.outbound_congr hvia]
      exact ⟨Via.outbound_sublist_complete hop _, Via.outbound_eq_complete_iff hop _⟩
    | cons first rest =>
      have hhops : first :: rest ≠ [] := List.cons_ne_nil first rest
      obtain ⟨w, hw, hsub, hiff⟩ := ih hhops
      rw [← hvia] at hw
      obtain ⟨hsent, hcomplete⟩ := Via.outbound_concat hhops hw hsub hop
      exact ⟨hsent, by rw [hcomplete, hiff, Via.unbroken_concat hhops]⟩

theorem destination_of_loopback :
    Destination.ofUrl ((Rule.ofWellFormed "^/x$ http://[::1]/y [P]" (by decide +kernel)).substitute
      (text "/x")) =
        .ok ⟨.plain, .absolute (text "http") (text "[::1]") ⟨text "/y"⟩⟩ := by
  have hplace : (Rule.ofWellFormed "^/x$ http://[::1]/y [P]" (by decide +kernel)).substitute
      (text "/x") = text "http://[::1]/y" := by decide +kernel
  rw [hplace, Destination.ofUrl_loopback]

/-- A request that has passed gateways has one Via field. Its value lists every line that was not
blank, and behind them every hop in the order of the gateways, exactly if no chain on the way is
broken. -/
theorem via_eq_complete_iff (h : Relay request hops r) (hne : hops ≠ []) :
    ∃ v, r.headers.getAll (text "via") = [v] ∧
      (v = Via.complete request.headers hops ↔ Via.Unbroken request.headers hops) := by
  obtain ⟨v, hv, -, hiff⟩ := exists_via h hne
  exact ⟨v, hv, hiff⟩

/-- Two gateways behind a proxy: three hops in the order in which they were passed. -/
theorem via_eq_complete_iff_two :
    let rule := Rule.ofWellFormed "^/x$ http://[::1]/y [P]" (by decide +kernel)
    let request : Request := ⟨text "GET", .relative ⟨text "/x"⟩,
      [(text "via", Utf8.encode (text "1.0 edge "))], Body.empty⟩
    ∃ o p, rule.outbound (text "1.1 gw1") (text "/x") request = .ok o ∧
      rule.outbound (text "1.1 gw2") (text "/x") o.request = .ok p ∧
      p.request.headers.getAll (text "via") =
        [Utf8.encode (text "1.0 edge, 1.1 gw1, 1.1 gw2")] := by
  intro rule request
  obtain ⟨o, ho⟩ : ∃ o, rule.outbound (text "1.1 gw1") (text "/x") request = .ok o :=
    ⟨_, Rule.outbound_of_valid destination_of_loopback (by decide +kernel)⟩
  have hfield : isFieldValue (Via.outbound (text "1.1 gw2") o.request.headers) = true := by
    rw [Rule.headers_of_outbound ho]
    decide +kernel
  have hp := Rule.outbound_of_valid destination_of_loopback hfield
  have hrelay := pass (pass start rfl ho) rfl hp
  obtain ⟨v, hv, hiff⟩ := via_eq_complete_iff hrelay (by decide)
  have hunbroken : Via.Unbroken request.headers [text "1.1 gw1", text "1.1 gw2"] :=
    (Via.unbroken_iff_of_bare (by decide +kernel) _).mpr (by decide +kernel)
  refine ⟨o, _, ho, hp, ?_⟩
  rw [hv, hiff.mpr hunbroken]
  decide +kernel

/-- A line with a letter outside ASCII is lost, and with it a hop. -/
theorem via_ne_complete_accent :
    let rule := Rule.ofWellFormed "^/x$ http://[::1]/y [P]" (by decide +kernel)
    let request : Request := ⟨text "GET", .relative ⟨text "/x"⟩,
      [(text "via", Utf8.encode (text "1.0 café")), (text "via", Utf8.encode (text "1.1 cdn"))],
      Body.empty⟩
    ∃ o, rule.outbound (text "1.1 gw1") (text "/x") request = .ok o ∧
      o.request.headers.getAll (text "via") = [Utf8.encode (text "1.1 cdn, 1.1 gw1")] ∧
      Via.complete request.headers [text "1.1 gw1"] =
        Utf8.encode (text "1.0 café, 1.1 cdn, 1.1 gw1") ∧
      o.request.headers.getAll (text "via") ≠
        [Via.complete request.headers [text "1.1 gw1"]] := by
  intro rule request
  obtain ⟨o, ho⟩ : ∃ o, rule.outbound (text "1.1 gw1") (text "/x") request = .ok o :=
    ⟨_, Rule.outbound_of_valid destination_of_loopback (by decide +kernel)⟩
  refine ⟨o, ho, ?_⟩
  rw [getAll_of_outbound ho]
  decide +kernel

end Relay

end RuleGate
