import RuleGate.Pattern

/-! # Where a match lies

All places that a search writes down are places that it has come to. A match therefore ends within
the text and not before it begins, and so it has a text before it and one behind it.
-/
namespace RuleGate.Pattern

namespace Slots

def Within (index : Nat) (s : Slots) : Prop := ∀ v, some v ∈ s → v ≤ index

/-- If the first two places are there, they are in order and within a text of this length. -/
def Ordered (length : Nat) (s : Slots) : Prop :=
  ∀ a b rest, s = some a :: some b :: rest → a ≤ b ∧ b ≤ length

variable {s : Slots} {index length here : Nat}

theorem within_replicate (n : Nat) : Within index (List.replicate n none) := by
  intro v hv
  simp at hv

theorem Within.set (h : s.Within index) (slot : Nat) : Within index (s.set slot (some index)) := by
  intro v hv
  rcases List.mem_or_eq_of_mem_set hv with hv | hv
  · exact h v hv
  · simp_all

theorem Within.mono (h : s.Within index) (hle : index ≤ here) : s.Within here :=
  fun v hv => Nat.le_trans (h v hv) hle

theorem Within.ordered_set (h : s.Within here) (hlength : here ≤ length) :
    Ordered length (s.set 1 (some here)) := by
  intro a b rest hs
  rcases s with _ | ⟨x, _ | ⟨y, s⟩⟩
  · simp at hs
  · simp at hs
  · obtain ⟨rfl, rfl, rfl⟩ : x = some a ∧ here = b ∧ s = rest := by simpa using hs
    exact ⟨h a (by simp), hlength⟩

end Slots

/-- The threads that wait have come from no further than `index`. -/
def Threads.Within (index : Nat) (ts : Threads) : Prop := ∀ t ∈ ts.waiting, t.slots.Within index

theorem Threads.within_empty (index : Nat) (seen : Array Nat) : Within index ⟨#[], seen⟩ := by
  simp [Within]

namespace Program

variable {p : Program} {place : Place} {threads : List Thread} {ts : Threads} {best : Option Slots}
  {here length : Nat} {passed : Option (Char × Place)}

theorem follow_within (fuel : Nat) (hthreads : ∀ t ∈ threads, t.slots.Within place.index)
    (hts : ts.Within place.index) : (p.follow place fuel threads ts).Within place.index := by
  induction fuel generalizing threads ts with
  | zero => exact hts
  | succ fuel ih =>
    cases threads with
    | nil => exact hts
    | cons t rest =>
      obtain ⟨waiting, seen⟩ := ts
      have ht : t.slots.Within place.index := hthreads t (by simp)
      have hrest : ∀ t ∈ rest, t.slots.Within place.index := fun t ht => hthreads t (by simp [ht])
      rw [follow]
      split
      · exact ih hrest hts
      · dsimp only
        split
        · exact ih hrest hts
        · refine ih ?_ hts
          split
          · simpa using ⟨ht, hrest⟩
          · exact hrest
        · refine ih ?_ hts
          simpa using ⟨ht.set _, hrest⟩
        · refine ih ?_ hts
          simpa using ⟨ht, hrest⟩
        · refine ih hrest fun u hu => ?_
          rcases Array.mem_push.mp hu with hu | rfl
          · exact hts u hu
          · exact ht
        · refine ih hrest fun u hu => ?_
          rcases Array.mem_push.mp hu with hu | rfl
          · exact hts u hu
          · exact ht

theorem advance_within (hpassed : ∀ c place, passed = some (c, place) → place.index = here + 1)
    (hlength : here ≤ length) (hthreads : ∀ t ∈ threads, t.slots.Within here)
    (hts : ts.Within (here + 1)) (hbest : ∀ s ∈ best, s.Ordered length) :
    (p.advance here passed threads ts best).1.Within (here + 1) ∧
      ∀ s ∈ (p.advance here passed threads ts best).2, s.Ordered length := by
  induction threads generalizing ts best with
  | nil => exact ⟨hts, hbest⟩
  | cons t rest ih =>
    have ht : t.slots.Within here := hthreads t (by simp)
    have hrest : ∀ t ∈ rest, t.slots.Within here := fun t ht => hthreads t (by simp [ht])
    rw [advance.eq_def]
    dsimp only
    split
    · refine ⟨hts, fun s hs => ?_⟩
      obtain rfl := Option.some.inj hs
      exact ht.ordered_set hlength
    · rename_i r after c place _
      refine ih hrest ?_ hbest
      rw [← hpassed c place rfl] at hts ⊢
      split
      · refine follow_within _ ?_ hts
        simpa [hpassed c place rfl] using ht.mono (Nat.le_succ here)
      · exact hts
    · exact ih hrest hts hbest

def started (p : Program) (groups : Nat) (place : Place) (ts : Threads) (best : Option Slots) :
    Threads :=
  if best.isNone then
    p.follow place p.fuel
      [⟨p.start, (List.replicate (2 * groups + 2) none).set 0 (some place.index)⟩] ts
  else ts

theorem started_within (groups : Nat) (hts : ts.Within place.index) :
    (p.started groups place ts best).Within place.index := by
  rw [started]
  split
  · apply follow_within _ _ hts
    simpa using (Slots.within_replicate (2 * groups + 2)).set 0
  · exact hts

theorem run_nil (groups index : Nat) (before : Option Char) :
    p.run groups [] index before ts best =
      let ts := p.started groups ⟨index, before, none⟩ ts best
      if ts.waiting.isEmpty && best.isSome then best
      else (p.advance index none ts.waiting.toList ⟨#[], ts.seen⟩ best).2 := rfl

theorem run_cons (groups index : Nat) (before : Option Char) (c : Char) (t : Text) :
    p.run groups (c :: t) index before ts best =
      let ts := p.started groups ⟨index, before, some c⟩ ts best
      if ts.waiting.isEmpty && best.isSome then best
      else
        let moved := p.advance index (some (c, ⟨index + 1, some c, t.head?⟩)) ts.waiting.toList
          ⟨#[], ts.seen⟩ best
        p.run groups t (index + 1) (some c) moved.1 moved.2 := rfl

/-- A search that goes on from a place closes its match behind the beginning and within the text. -/
theorem run_ordered (groups : Nat) (t : Text) (index : Nat) (before : Option Char)
    (hts : ts.Within index) (hbest : ∀ s ∈ best, s.Ordered (index + t.length)) :
    ∀ s ∈ p.run groups t index before ts best, s.Ordered (index + t.length) := by
  induction t generalizing index before ts best with
  | nil =>
    have hstarted : (p.started groups ⟨index, before, none⟩ ts best).Within index :=
      started_within groups hts
    rw [run_nil]
    dsimp only
    split
    · exact hbest
    · exact (advance_within (by simp) (Nat.le_refl index)
        (fun t ht => hstarted t (Array.mem_toList_iff.mp ht)) (Threads.within_empty _ _) hbest).2
  | cons c t ih =>
    have hstarted : (p.started groups ⟨index, before, some c⟩ ts best).Within index :=
      started_within groups hts
    have hlength : index + (c :: t).length = index + 1 + t.length := by
      simp only [List.length_cons]
      omega
    rw [run_cons]
    dsimp only
    split
    · exact hbest
    · rw [hlength] at hbest ⊢
      have hpassed : ∀ d place, some (c, (⟨index + 1, some c, t.head?⟩ : Place)) = some (d, place) →
          place.index = index + 1 := by
        rintro _ _ ⟨⟩
        rfl
      obtain ⟨hmoved, hfound⟩ := advance_within hpassed (by omega)
        (fun t ht => hstarted t (Array.mem_toList_iff.mp ht)) (Threads.within_empty _ _) hbest
      exact ih (index + 1) (some c) hmoved hfound

end Program

variable {p : Pattern} {t : Text} {m : Match}

theorem eq_of_spans {s : Slots} {a b : Nat} {groups : List (Option (Nat × Nat))}
    (h : spans s = some (a, b) :: groups) : ∃ rest, s = some a :: some b :: rest := by
  rcases s with _ | ⟨_ | x, _ | ⟨_ | y, s⟩⟩ <;> simp_all [spans]

theorem find?_bounds (h : p.find? t = some m) :
    m.start ≤ m.stop ∧ m.stop ≤ t.length ∧ m.groups[0]? = some (some (m.start, m.stop)) := by
  rw [find?] at h
  split at h
  · rename_i a b groups hspans
    obtain ⟨s, hs, hspans⟩ := Option.map_eq_some_iff.mp hspans
    obtain ⟨rest, rfl⟩ := eq_of_spans hspans
    obtain rfl := Option.some.inj h
    have hordered := Program.run_ordered p.groups t 0 none (Threads.within_empty 0 _) (by simp) _ hs
    obtain ⟨hle, hlength⟩ := hordered a b rest rfl
    exact ⟨hle, by simpa using hlength, rfl⟩
  · simp at h

/-- A match cuts its text in three. -/
theorem exists_eq_append_of_find? (h : p.find? t = some m) :
    ∃ before after, t = before ++ slice t (m.start, m.stop) ++ after ∧ before = t.take m.start ∧
      after = t.drop m.stop ∧ before.length = m.start ∧
      (before ++ slice t (m.start, m.stop)).length = m.stop := by
  obtain ⟨hle, hlength, -⟩ := find?_bounds h
  refine ⟨t.take m.start, t.drop m.stop, ?_, rfl, rfl, ?_, ?_⟩
  · have hafter : t.drop m.stop = (t.drop m.start).drop (m.stop - m.start) := by
      rw [List.drop_drop, Nat.add_sub_cancel' hle]
    rw [slice, hafter, List.append_assoc, List.take_append_drop, List.take_append_drop]
  · simp
    omega
  · simp [slice]
    omega

end RuleGate.Pattern
