import Mathlib.Data.List.Nodup
import Mathlib.Data.List.TakeWhile
import RuleGate.Proofs.Query.Mapping

/-! # What a query mapping keeps

The segments of a query are sorted into lists by their decoded names. Adding a segment changes the
list of its name alone, to which it adds one value at the end, so the mapping holds each segment
once, under its name and in its turn, and two queries joined by an ampersand have the values of the
first before those of the second.
-/
namespace RuleGate.Query

def segments (query : Text) : List Text := (Text.splitAll '&' query).filter fun s => !s.isEmpty

def nameOf (segment : Text) : Text := decode (segment.takeWhile (· != '='))

/-- The value of a segment: what follows its first equals sign. -/
def valueOf (segment : Text) : Text := decode ((segment.dropWhile (· != '=')).drop 1)

def names (q : Query) : List Text := q.params.map Prod.fst

variable {params : List (Text × List Text)} {name other value : Text}

/-! ## Segments -/

theorem pair_eq (segment : Text) : pair segment = (nameOf segment, valueOf segment) := by
  have hplain {t : Text} (ht : '=' ∉ t) : ∀ c ∈ t, (c != '=') = true := fun c hc =>
    bne_iff_ne.mpr fun heq => ht (heq ▸ hc)
  unfold nameOf valueOf
  by_cases h : '=' ∈ segment
  · obtain ⟨name, value, rfl, hname⟩ := List.eq_append_cons_of_mem h
    rw [pair_append_equals hname, Text.takeWhile_ne_append hname,
      List.dropWhile_append_of_pos (hplain hname)]
    simp
  · rw [pair_of_not_mem h, List.dropWhile_eq_nil_iff.mpr (hplain h),
      ← List.append_nil segment, Text.takeWhile_ne_append h]
    rfl

theorem pairs_eq (query : Text) :
    pairs query = (segments query).map fun s => (nameOf s, valueOf s) :=
  List.map_congr_left fun s _ => pair_eq s

theorem segments_append (a b : Text) : segments (a ++ '&' :: b) = segments a ++ segments b := by
  unfold segments
  rw [Text.splitAll_append_separator, List.filter_append]

/-! ## Adding a value -/

theorem getAll_cons (n : Text) (vs : List Text) (params : List (Text × List Text)) (name : Text) :
    getAll ⟨(n, vs) :: params⟩ name = if n = name then vs else getAll ⟨params⟩ name := by
  unfold getAll
  by_cases h : n = name
  · simp [h]
  · simp [h]

/-- A value goes to the end of the values of its name and to no others. -/
theorem getAll_insert (name value other : Text) (params : List (Text × List Text)) :
    getAll ⟨insert name value params⟩ other =
      getAll ⟨params⟩ other ++ if name = other then [value] else [] := by
  induction params with
  | nil => rw [insert, getAll_cons, getAll, List.find?_nil, List.nil_append]
  | cons p params ih =>
    obtain ⟨n, vs⟩ := p
    rw [insert]
    by_cases hn : n = name
    · subst hn
      rw [if_pos rfl, getAll_cons, getAll_cons]
      by_cases hother : n = other
      · simp [hother]
      · simp [hother]
    · rw [if_neg hn, getAll_cons, getAll_cons]
      by_cases hother : n = other
      · subst hother
        simp [Ne.symm hn]
      · rw [if_neg hother, if_neg hother, ih]

theorem names_insert (name value : Text) (params : List (Text × List Text)) :
    names ⟨insert name value params⟩ =
      if name ∈ names ⟨params⟩ then names ⟨params⟩ else names ⟨params⟩ ++ [name] := by
  unfold names
  induction params with
  | nil => rfl
  | cons p params ih =>
    obtain ⟨n, vs⟩ := p
    rw [insert]
    by_cases hn : n = name
    · simp [hn]
    · rw [if_neg hn, List.map_cons, List.map_cons, ih]
      by_cases hmem : name ∈ params.map Prod.fst
      · simp [hmem]
      · simp [hmem, Ne.symm hn]

/-- No name is there twice, and none without a value. -/
structure Grouped (params : List (Text × List Text)) : Prop where
  nodup : (names ⟨params⟩).Nodup
  ne_nil : ∀ p ∈ params, p.2 ≠ []

theorem Grouped.nil : Grouped [] := ⟨List.nodup_nil, nofun⟩

theorem Grouped.insert (h : Grouped params) (name value : Text) :
    Grouped (insert name value params) where
  nodup := by
    rw [names_insert]
    split
    · exact h.nodup
    · rename_i hnew
      exact List.nodup_append_comm.mp (List.nodup_cons.mpr ⟨hnew, h.nodup⟩)
  ne_nil := by
    have hne := h.ne_nil
    clear h
    induction params with
    | nil => simp [Query.insert]
    | cons p params ih =>
      obtain ⟨n, vs⟩ := p
      obtain ⟨hp, hrest⟩ := List.forall_mem_cons.mp hne
      rw [Query.insert]
      split
      · exact List.forall_mem_cons.mpr ⟨by simp, hrest⟩
      · exact List.forall_mem_cons.mpr ⟨hp, ih hrest⟩

/-! ## A whole query -/

/-- The mapping of a query, value by value. -/
theorem params_parse (query : Text) :
    (parse query).params =
      (segments query).foldl (fun params s => insert (nameOf s) (valueOf s) params) [] := by
  rw [parse, pairs_eq, List.foldl_map]

theorem getAll_foldl (segments : List Text) (params : List (Text × List Text)) (name : Text) :
    getAll ⟨segments.foldl (fun params s => insert (nameOf s) (valueOf s) params) params⟩ name =
      getAll ⟨params⟩ name ++ (segments.filter fun s => nameOf s == name).map valueOf := by
  induction segments generalizing params with
  | nil => exact (List.append_nil _).symm
  | cons s segments ih =>
    rw [List.foldl_cons, ih, getAll_insert, List.append_assoc]
    by_cases hs : nameOf s = name
    · rw [if_pos hs, List.filter_cons_of_pos (by simpa using hs), List.map_cons,
        List.singleton_append]
    · rw [if_neg hs, List.filter_cons_of_neg (by simpa using hs), List.nil_append]

theorem mem_names_foldl (segments : List Text) (params : List (Text × List Text)) (name : Text) :
    name ∈ names ⟨segments.foldl (fun params s => insert (nameOf s) (valueOf s) params) params⟩ ↔
      name ∈ names ⟨params⟩ ∨ ∃ s ∈ segments, nameOf s = name := by
  induction segments generalizing params with
  | nil => simp
  | cons s segments ih =>
    have hinsert : name ∈ names ⟨insert (nameOf s) (valueOf s) params⟩ ↔
        name ∈ names ⟨params⟩ ∨ nameOf s = name := by
      rw [names_insert]
      split
      · rename_i hmem
        exact ⟨.inl, fun h => h.elim id fun hs => hs ▸ hmem⟩
      · rw [List.mem_append, List.mem_singleton, eq_comm (a := name)]
    rw [List.foldl_cons, ih, hinsert, or_assoc, List.exists_mem_cons_iff]

theorem grouped_foldl (segments : List Text) (h : Grouped params) :
    Grouped (segments.foldl (fun params s => insert (nameOf s) (valueOf s) params) params) := by
  induction segments generalizing params with
  | nil => exact h
  | cons s segments ih => exact ih (h.insert _ _)

/-- The values of a name are those of the segments with this name, in their order. -/
theorem getAll_parse (query name : Text) :
    (parse query).getAll name =
      ((segments query).filter fun s => nameOf s == name).map valueOf := by
  rw [show parse query = ⟨(parse query).params⟩ from rfl, params_parse, getAll_foldl]
  rfl

theorem grouped_parse (query : Text) : Grouped (parse query).params := by
  rw [params_parse]
  exact grouped_foldl _ .nil

theorem contains_iff_mem_names (q : Query) (name : Text) :
    q.contains name = true ↔ name ∈ q.names := by
  simp [contains, names]

theorem getAll_of_mem (h : (names ⟨params⟩).Nodup) {p : Text × List Text} (hp : p ∈ params) :
    getAll ⟨params⟩ p.1 = p.2 := by
  induction params with
  | nil => exact absurd hp List.not_mem_nil
  | cons first params ih =>
    obtain ⟨hnew, hrest⟩ := List.nodup_cons.mp h
    rw [getAll_cons]
    rcases List.mem_cons.mp hp with rfl | hp
    · exact if_pos rfl
    · have hne : first.1 ≠ p.1 := fun heq => hnew (heq ▸ List.mem_map_of_mem hp)
      rw [if_neg hne, ih hrest hp]

theorem getAll_of_not_mem (h : name ∉ names ⟨params⟩) : getAll ⟨params⟩ name = [] := by
  induction params with
  | nil => rfl
  | cons p params ih =>
    obtain ⟨hne, hrest⟩ := not_or.mp (List.mem_cons.not.mp h)
    rw [getAll_cons, if_neg (Ne.symm hne), ih hrest]

theorem isSome_get?_iff (h : Grouped params) :
    (get? ⟨params⟩ name).isSome = true ↔ name ∈ names ⟨params⟩ := by
  unfold get?
  rw [List.isSome_head?]
  constructor
  · intro hvalues
    by_contra hname
    exact hvalues (getAll_of_not_mem hname)
  · intro hname
    obtain ⟨p, hp, rfl⟩ := List.mem_map.mp hname
    rw [getAll_of_mem h.nodup hp]
    exact h.ne_nil p hp

/-- A query mapping loses, invents and reorders nothing. Joined queries have their values joined
name by name. The names are those of the segments, each once and with a value; the values of a name
are those of its segments in their order, and there are as many values as segments. The first value
is there exactly if the name is. -/
theorem parse_keeps_segments :
    (∀ a b name : Text, (parse (a ++ '&' :: b)).getAll name =
      (parse a).getAll name ++ (parse b).getAll name) ∧
    ∀ query : Text,
      let q := parse query
      (∀ name, name ∈ q.names ↔ ∃ s ∈ segments query, nameOf s = name) ∧ q.names.Nodup ∧
      (∀ name, q.getAll name =
        ((segments query).filter fun s => nameOf s == name).map valueOf) ∧
      (q.params.map fun p => p.2.length).sum = (segments query).length ∧
      (∀ p ∈ q.params, p.2 ≠ [] ∧ q.getAll p.1 = p.2) ∧
      ∀ name, (∀ value, q.get? name = some value ↔ ∃ rest, q.getAll name = value :: rest) ∧
        ((q.get? name).isSome = q.contains name) := by
  refine ⟨fun a b name => ?_, fun query => ?_⟩
  · rw [getAll_parse, getAll_parse, getAll_parse, segments_append, List.filter_append,
      List.map_append]
  intro q
  have hgrouped : Grouped q.params := grouped_parse query
  refine ⟨fun name => ?_, hgrouped.nodup, getAll_parse query, ?_, fun p hp => ?_, fun name => ?_⟩
  · have hmem := mem_names_foldl (segments query) [] name
    rw [← params_parse] at hmem
    exact hmem.trans (or_iff_right List.not_mem_nil)
  · have htotal := total_parse (fun _ _ => 1) query
    rw [pairs_eq, List.map_map] at htotal
    simpa [total, Function.comp_def] using htotal
  · exact ⟨hgrouped.ne_nil p hp, getAll_of_mem hgrouped.nodup hp⟩
  · refine ⟨fun value => List.head?_eq_some_iff, ?_⟩
    rw [Bool.eq_iff_iff, contains_iff_mem_names]
    exact isSome_get?_iff hgrouped

/-- Different spellings of a name share one list, and an empty segment has no part in it. -/
example : (parse (text "a=1&&%61=2&b&a")).getAll (text "a") = [text "1", text "2", []] := by
  decide

end RuleGate.Query
