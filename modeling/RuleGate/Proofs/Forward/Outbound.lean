import RuleGate.Forward

/-! # When a request is sent

Whether there is a request for a backend depends on two things in turn: the URL of the rule has to
name a backend, and a header has to hold the Via chain. What is sent has this chain as its only Via
field.
-/
namespace RuleGate

namespace Headers

variable {h : Headers} {name other : Text} {value : Bytes}

theorem getAll_append (h k : Headers) (name : Text) :
    getAll (h ++ k) name = h.getAll name ++ getAll k name := by
  unfold getAll
  rw [List.filter_append, List.map_append]

theorem getAll_singleton (name : Text) (value : Bytes) : getAll [(name, value)] name = [value] := by
  simp [getAll]

theorem getAll_singleton_of_ne (hne : other ≠ name) : getAll [(other, value)] name = [] := by
  simp [getAll, hne]

theorem getAll_without (h : Headers) (name : Text) : (h.without name).getAll name = [] := by
  simp [getAll, without]

theorem getAll_without_of_ne (hne : other ≠ name) :
    (h.without other).getAll name = h.getAll name := by
  unfold getAll without
  rw [List.filter_filter]
  congr 1
  apply List.filter_congr
  intro f _
  by_cases hf : f.1 = name
  · simp [hf, Ne.symm hne]
  · simp [hf]

theorem getAll_put (h : Headers) (name : Text) (value : Bytes) :
    (h.put name value).getAll name = [value] := by
  rw [put, getAll_append, getAll_without, getAll_singleton, List.nil_append]

theorem getAll_put_of_ne (hne : other ≠ name) :
    (h.put other value).getAll name = h.getAll name := by
  rw [put, getAll_append, getAll_without_of_ne hne, getAll_singleton_of_ne hne, List.append_nil]

theorem getAll_putNew_of_ne (hne : other ≠ name) :
    (h.putNew other value).getAll name = h.getAll name := by
  unfold putNew
  split
  · rfl
  · rw [getAll_append, getAll_singleton_of_ne hne, List.append_nil]

theorem isSome_get? (h : Headers) (name : Text) :
    (h.get? name).isSome = !(h.getAll name).isEmpty := by
  unfold get?
  cases h.getAll name <;> rfl

theorem getAll_putNew (h : Headers) (name : Text) (value : Bytes) :
    (h.putNew name value).getAll name =
      if h.getAll name = [] then [value] else h.getAll name := by
  unfold putNew
  rw [isSome_get?]
  by_cases hnone : h.getAll name = []
  · rw [if_pos hnone, if_neg (by simp [hnone]), getAll_append, hnone, getAll_singleton,
      List.nil_append]
  · rw [if_neg hnone, if_pos (by simp [hnone])]

theorem without_putNew (h : Headers) (name : Text) (value : Bytes) :
    (h.putNew name value).without name = h.without name := by
  unfold putNew
  split
  · rfl
  · unfold without
    rw [List.filter_append, List.filter_cons_of_neg (by simp), List.filter_nil, List.append_nil]

theorem outbound_eq_put (h : Headers) (via : Bytes) :
    h.outbound via = (h.without (text "host")).put (text "via") via := rfl

theorem getAll_outbound (h : Headers) (via : Bytes) :
    (h.outbound via).getAll (text "via") = [via] := by
  rw [outbound_eq_put, getAll_put]

end Headers

def Via.outbound (hop : Text) (h : Headers) : Bytes := Utf8.encode (Via.chain hop (Via.inbound h))

namespace Rule

variable {rule : Rule} {hop url : Text} {request : Request} {d : Destination} {o : Outbound}

theorem outbound_of_no_backend {fault : BackendFault}
    (h : Destination.ofUrl (rule.substitute url) = .error fault) :
    rule.outbound hop url request = .error (.invalidBackend (rule.substitute url) fault) := by
  simp [outbound, h]

theorem outbound_of_invalid_via (h : Destination.ofUrl (rule.substitute url) = .ok d)
    (hvia : isFieldValue (Via.outbound hop request.headers) = false) :
    rule.outbound hop url request = .error .invalidVia := by
  unfold Via.outbound at hvia
  simp [outbound, h, hvia]

theorem outbound_of_valid (h : Destination.ofUrl (rule.substitute url) = .ok d)
    (hvia : isFieldValue (Via.outbound hop request.headers) = true) :
    rule.outbound hop url request =
      .ok ⟨rule.substitute url, d.transport, Via.outbound hop request.headers,
        { request with
          target := d.target
          headers := request.headers.outbound (Via.outbound hop request.headers) }⟩ := by
  unfold Via.outbound at hvia ⊢
  simp [outbound, h, hvia]

/-- A request that is sent is the one that came in, but for its target and its headers. -/
theorem exists_of_outbound (h : rule.outbound hop url request = .ok o) :
    ∃ d, Destination.ofUrl (rule.substitute url) = .ok d ∧
      o = ⟨rule.substitute url, d.transport, Via.outbound hop request.headers,
        { request with
          target := d.target
          headers := request.headers.outbound (Via.outbound hop request.headers) }⟩ := by
  cases hd : Destination.ofUrl (rule.substitute url) with
  | error fault => exact absurd h (by simp [outbound_of_no_backend hd])
  | ok d =>
    cases hvia : isFieldValue (Via.outbound hop request.headers) with
    | false => exact absurd h (by simp [outbound_of_invalid_via hd hvia])
    | true =>
      rw [outbound_of_valid hd hvia] at h
      exact ⟨d, rfl, (Except.ok.inj h).symm⟩

theorem headers_of_outbound (h : rule.outbound hop url request = .ok o) :
    o.request.headers = request.headers.outbound (Via.outbound hop request.headers) := by
  obtain ⟨d, -, rfl⟩ := exists_of_outbound h
  rfl

end Rule

end RuleGate
