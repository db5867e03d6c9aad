import Mathlib.Algebra.Ring.Nat
import RuleGate.Proofs.Query.Decoding
import RuleGate.Proofs.Text.Pieces

/-! # Sums over a query mapping

Values are grouped by name without any of them being lost, so that a sum over the mapping is the
sum over the segments of the query. A query with something appended after a `#` has a larger
mapping in this sense, and so a different one.
-/
namespace RuleGate.Query

def total (f : Text → Text → Nat) (params : List (Text × List Text)) : Nat :=
  (params.map fun p => (p.2.map (f p.1)).sum).sum

theorem total_insert (f : Text → Text → Nat) (name value : Text)
    (params : List (Text × List Text)) :
    total f (insert name value params) = total f params + f name value := by
  induction params with
  | nil => simp [insert, total]
  | cons p params ih =>
    obtain ⟨n, vs⟩ := p
    unfold total at ih ⊢
    rw [insert]
    by_cases hn : n = name
    · subst hn
      simp
      omega
    · simp [hn, ih]
      omega

/-- A sum over the mapping of a query is the sum over its names and values. -/
theorem total_parse (f : Text → Text → Nat) (query : Text) :
    total f (parse query).params = ((pairs query).map fun p => f p.1 p.2).sum := by
  have hfold (l : List (Text × Text)) (params : List (Text × List Text)) :
      total f (l.foldl (fun m p => insert p.1 p.2 m) params) =
        total f params + (l.map fun p => f p.1 p.2).sum := by
    induction l generalizing params with
    | nil => simp
    | cons p l ih =>
      rw [List.foldl_cons, ih, total_insert, List.map_cons, List.sum_cons, Nat.add_assoc]
  rw [parse, hfold]
  simp [total]

/-- How much a segment contributes to a mapping: nothing if it is empty, otherwise one more than
the lengths of its name and value. -/
def extent (segment : Text) : Nat :=
  if segment.isEmpty then 0 else (pair segment).1.length + (pair segment).2.length + 1

theorem sum_pairs (query : Text) :
    ((pairs query).map fun p => p.1.length + p.2.length + 1).sum =
      ((Text.splitAll '&' query).map extent).sum := by
  unfold pairs
  induction Text.splitAll '&' query with
  | nil => rfl
  | cons s segments ih =>
    cases s with
    | nil => simpa [extent] using ih
    | cons c s => simpa [extent] using ih

theorem pair_append_equals {name : Text} (h : '=' ∉ name) (value : Text) :
    pair (name ++ '=' :: value) = (decode name, decode value) := by
  simp [pair, Text.cut_append_cons h]

theorem pair_of_not_mem {segment : Text} (h : '=' ∉ segment) :
    pair segment = (decode segment, []) := by
  simp only [pair, Text.cut_of_not_mem h]
  rfl

theorem extent_lt (a b : Text) : extent a < extent (a ++ '#' :: b) := by
  have hdecode (s t : Text) : (decode s).length < (decode (s ++ '#' :: t)).length := by
    rw [decode_append_hash, List.length_append, List.length_cons]
    omega
  have hextent : extent (a ++ '#' :: b) =
      (pair (a ++ '#' :: b)).1.length + (pair (a ++ '#' :: b)).2.length + 1 :=
    if_neg (by simp)
  have hle : extent a ≤ (pair a).1.length + (pair a).2.length + 1 := by
    unfold extent
    split <;> omega
  by_cases ha : '=' ∈ a
  · obtain ⟨name, value, rfl, hname⟩ := List.eq_append_cons_of_mem ha
    have hvalue := hdecode value b
    rw [List.append_assoc, List.cons_append, pair_append_equals hname] at hextent
    rw [pair_append_equals hname] at hle
    simp only [List.append_assoc, List.cons_append] at hextent hle ⊢
    omega
  · have hb : (decode a).length < (pair (a ++ '#' :: b)).1.length := by
      by_cases hb : '=' ∈ b
      · obtain ⟨rest, value, rfl, hrest⟩ := List.eq_append_cons_of_mem hb
        have hname : '=' ∉ a ++ '#' :: rest := by simp [ha, hrest]
        rw [← List.cons_append, ← List.append_assoc, pair_append_equals hname]
        exact hdecode a rest
      · rw [pair_of_not_mem (by simp [ha, hb])]
        exact hdecode a b
    rw [pair_of_not_mem ha] at hle
    dsimp only [List.length_nil] at hle
    omega

/-- The mapping of a query tells whether a `#` and more text stand after it. -/
theorem parse_append_hash_ne (a b : Text) : parse (a ++ '#' :: b) ≠ parse a := by
  intro h
  obtain ⟨first, last, next, rest, ha, -, hab⟩ :=
    Text.splitAll_append_cons (show '#' ≠ '&' by decide) a b
  have htotal := total_parse (fun name value => name.length + value.length + 1) (a ++ '#' :: b)
  rw [h, total_parse, sum_pairs, sum_pairs, ha, hab] at htotal
  simp only [List.map_append, List.map_cons, List.sum_append, List.sum_cons, List.map_nil,
    List.sum_nil] at htotal
  have hlast := extent_lt last next
  omega

end RuleGate.Query
