import RuleGate.Pattern

/-! # Patterns that begin at the beginning

A program whose first instruction asks for the beginning of the text starts no thread anywhere
else. Once the threads from there have died, it has nothing left to find.
-/
namespace RuleGate.Pattern.Program

variable {p : Program} {next : Nat}

theorem run_of_found (p : Program) (groups : Nat) (t : Text) (index : Nat) (before : Option Char)
    (seen : Array Nat) (found : Slots) :
    p.run groups t index before ⟨#[], seen⟩ (some found) = some found := by
  rw [run]
  rfl

theorem follow_nil (p : Program) (place : Place) (fuel : Nat) (ts : Threads) :
    p.follow place fuel [] ts = ts := by
  cases fuel <;> rfl

theorem follow_of_anchored (h : p.instructions[p.start]? = some (.look .textStart next))
    (place : Place) (hplace : place.before.isSome = true) (fuel : Nat) (slots : Slots)
    (seen : Array Nat) :
    ∃ seen', p.follow place fuel [⟨p.start, slots⟩] ⟨#[], seen⟩ = ⟨#[], seen'⟩ := by
  cases fuel with
  | zero => exact ⟨seen, rfl⟩
  | succ fuel =>
    have hlook : Look.textStart.holds place = false := by simpa [Look.holds] using hplace
    rw [follow]
    split
    · exact ⟨seen, follow_nil p place fuel _⟩
    · simp only [h, hlook]
      exact ⟨_, follow_nil p place fuel _⟩

/-- Behind the beginning of a text, an anchored program without threads finds nothing. -/
theorem run_of_anchored (h : p.instructions[p.start]? = some (.look .textStart next)) (groups : Nat)
    (t : Text) (index : Nat) (before : Option Char) (hbefore : before.isSome = true)
    (seen : Array Nat) : p.run groups t index before ⟨#[], seen⟩ none = none := by
  induction t generalizing index before seen with
  | nil =>
    obtain ⟨seen', hfollow⟩ := follow_of_anchored h ⟨index, before, none⟩ hbefore p.fuel
      ((List.replicate (2 * groups + 2) none).set 0 (some index)) seen
    rw [run]
    simp only [List.head?_nil, Option.isNone_none, if_true, hfollow]
    rfl
  | cons c t ih =>
    obtain ⟨seen', hfollow⟩ := follow_of_anchored h ⟨index, before, some c⟩ hbefore p.fuel
      ((List.replicate (2 * groups + 2) none).set 0 (some index)) seen
    rw [run]
    simp only [List.head?_cons, Option.isNone_none, if_true, hfollow]
    exact ih _ _ rfl _

end RuleGate.Pattern.Program
