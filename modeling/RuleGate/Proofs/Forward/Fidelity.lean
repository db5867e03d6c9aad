import RuleGate.Proofs.Via.Relay

/-! # What forwarding leaves alone

A request goes to the backend with the fields that it has, and so does the answer come back. Both
ways one Via field stands in place of all others, and no Host field goes to the backend. The fields
of every other name keep their values in their order, and method, status and bodies stay the same.
-/
namespace RuleGate

/-- Headers `k` are headers `h` without the fields of a name, with one Via field in place of all. -/
structure Headers.Forwarded (dropped : List Text) (via : Bytes) (h k : Headers) : Prop where
  via_eq : k.getAll (text "via") = [via]
  dropped_eq : ∀ name ∈ dropped, k.getAll name = []
  kept_eq : ∀ name, name ≠ text "via" → name ∉ dropped → k.getAll name = h.getAll name

namespace Headers

theorem forwarded_outbound (h : Headers) (via : Bytes) :
    Forwarded [text "host"] via h (h.outbound via) := by
  have hhost : text "via" ≠ text "host" := by decide
  rw [outbound_eq_put]
  refine ⟨getAll_put .., fun name hname => ?_, fun name hvia hname => ?_⟩
  · obtain rfl := List.mem_singleton.mp hname
    rw [getAll_put_of_ne hhost, getAll_without]
  · rw [getAll_put_of_ne hvia.symm, getAll_without_of_ne (by simpa [eq_comm] using hname)]

theorem forwarded_put (h : Headers) (via : Bytes) :
    Forwarded [] via h (h.put (text "via") via) :=
  ⟨getAll_put .., nofun, fun _ hvia _ => getAll_put_of_ne hvia.symm⟩

end Headers

namespace Rule

variable {rule : Rule} {hop url : Text} {request : Request} {o : Outbound}

theorem forward_of_outbound (h : rule.outbound hop url request = .ok o) (backend : Backend) :
    rule.forward hop url request backend = o.receive (backend o.transport o.request) := by
  rw [forward, h]
  rfl

/-- A request that is sent has the method and the body of the one that came in, and all its fields
but Host and Via. The response has the status and the body of the answer, and all its fields but
Via. Each way there is one Via field, and it is the same one. -/
theorem forward_faithful (h : rule.outbound hop url request = .ok o) :
    o.request.method = request.method ∧ o.request.body = request.body ∧
    Headers.Forwarded [text "host"] o.via request.headers o.request.headers ∧
    ∀ backend : Backend,
      (∀ answer, backend o.transport o.request = some answer →
        ∃ response, rule.forward hop url request backend = .ok response ∧
          response.status = answer.status ∧ response.body = answer.body ∧
          Headers.Forwarded [] o.via answer.headers response.headers) ∧
      (backend o.transport o.request = none →
        rule.forward hop url request backend = .error (.noResponse o.url)) := by
  obtain ⟨d, -, rfl⟩ := exists_of_outbound h
  refine ⟨rfl, rfl, Headers.forwarded_outbound .., fun backend => ⟨fun answer hanswer => ?_, ?_⟩⟩
  · rw [forward_of_outbound h, hanswer]
    exact ⟨_, rfl, rfl, rfl, Headers.forwarded_put ..⟩
  · intro hnone
    rw [forward_of_outbound h, hnone]
    rfl

/-- A field that is repeated around others, and a body that breaks off. -/
theorem forward_faithful_repeated :
    let rule := Rule.ofWellFormed "^/tags$ http://[::1]/y [P]" (by decide +kernel)
    let tag (value : String) : Text × Bytes := (text "x-tag", Utf8.encode (text value))
    let request : Request := ⟨text "POST", .relative ⟨text "/tags"⟩,
      [tag "a", (text "host", Utf8.encode (text "example.com")), tag "b",
        (text "via", Utf8.encode (text "1.0 edge")), tag "a"],
      { bytes := Utf8.encode (text "begin"), broken := true }⟩
    ∃ o, rule.outbound (text "1.1 gw1") (text "/tags") request = .ok o ∧
      o.request.method = text "POST" ∧ o.request.body = request.body ∧
      o.request.headers.getAll (text "host") = [] ∧
      o.request.headers.getAll (text "x-tag") =
        [Utf8.encode (text "a"), Utf8.encode (text "b"), Utf8.encode (text "a")] := by
  intro rule tag request
  have hplace : rule.substitute (text "/tags") = text "http://[::1]/y" := by decide +kernel
  have hbackend : Destination.ofUrl (rule.substitute (text "/tags")) =
      .ok ⟨.plain, .absolute (text "http") (text "[::1]") ⟨text "/y"⟩⟩ := by
    rw [hplace, Destination.ofUrl_loopback]
  obtain ⟨o, ho⟩ : ∃ o, rule.outbound (text "1.1 gw1") (text "/tags") request = .ok o :=
    ⟨_, outbound_of_valid hbackend (by decide +kernel)⟩
  obtain ⟨hmethod, hbody, hheaders, -⟩ := forward_faithful ho
  have hvia : text "x-tag" ≠ text "via" := by decide
  have hhost : text "x-tag" ≠ text "host" := by decide
  refine ⟨o, ho, hmethod, hbody, hheaders.dropped_eq _ (List.mem_singleton_self _), ?_⟩
  rw [hheaders.kept_eq _ hvia (mt List.mem_singleton.mp hhost)]
  decide +kernel

end Rule

end RuleGate
