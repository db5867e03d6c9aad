import Mathlib.Data.List.Zip
import Mathlib.Logic.Function.Basic
import RuleGate.Shutdown

/-! # What a run says about subscriptions

A ledger is kept from outside: from the steps of a run and the answers to them it takes down which
handles and subscriptions there are, through which handle a subscription was made and from which
coordinator a handle comes. It knows of no channels.
-/
namespace RuleGate.Shutdown

/-- The ledger of a run. `held` are the handles and `listening` the subscriptions that have not been
dropped, each subscription with the handle that it was made through; `origin` has for each handle
the coordinator, named by its first handle, of which it is a clone or a clone of a clone. -/
structure Ledger where
  origin : Nat → Nat := id
  held : List Nat := [0]
  listening : List (Nat × Nat) := []

namespace Ledger

def hold (l : Ledger) (handle origin : Nat) : Ledger :=
  { l with held := l.held ++ [handle], origin := Function.update l.origin handle origin }

def record (l : Ledger) : Step × Answer → Ledger
  | (.new, .number n) => l.hold n n
  | (.clone h, .number n) => l.hold n (l.origin h)
  | (.subscribe h, .number i) => { l with listening := l.listening ++ [(i, h)] }
  | (.dropHandle h, .nothing) => { l with held := l.held.filter (· != h) }
  | (.dropSubscription i, .nothing) => { l with listening := l.listening.filter (·.1 != i) }
  | _ => l

def ofRun (steps : List Step) : Ledger :=
  (steps.zip (Registry.run {} steps)).foldl record {}

/-- The subscriptions made through any handle of the coordinator of a handle. -/
def listeners (l : Ledger) (handle : Nat) : List Nat :=
  (l.listening.filter fun s => l.origin s.2 == l.origin handle).map Prod.fst

/-- A step that adds to the listeners of a handle or takes one away. -/
def Concerns (l : Ledger) (handle : Nat) : Step → Prop
  | .subscribe h => l.origin h = l.origin handle
  | .dropSubscription i => i ∈ l.listeners handle
  | _ => False

instance (l : Ledger) (handle : Nat) : DecidablePred (l.Concerns handle) := fun s => by
  cases s <;> unfold Concerns <;> infer_instance

variable {l : Ledger} {handle h i n o : Nat}

theorem origin_hold_self (l : Ledger) (n o : Nat) : (l.hold n o).origin n = o :=
  Function.update_self ..

theorem origin_hold_of_ne (hne : h ≠ n) (l : Ledger) (o : Nat) :
    (l.hold n o).origin h = l.origin h := Function.update_of_ne hne ..

theorem mem_listeners :
    i ∈ l.listeners handle ↔ ∃ h, (i, h) ∈ l.listening ∧ l.origin h = l.origin handle := by
  simp [listeners]

end Ledger

namespace Registry

def after (r : Registry) (steps : List Step) : Registry := steps.foldl (fun r s => (r.step s).1) r

variable {r : Registry}

theorem after_append (r : Registry) (xs ys : List Step) :
    r.after (xs ++ ys) = (r.after xs).after ys := List.foldl_append

theorem run_append (r : Registry) (xs ys : List Step) :
    r.run (xs ++ ys) = r.run xs ++ (r.after xs).run ys := by
  induction xs generalizing r with
  | nil => rfl
  | cons s xs ih => exact congrArg ((r.step s).2 :: ·) (ih (r.step s).1)

theorem length_run (r : Registry) (steps : List Step) : (r.run steps).length = steps.length := by
  induction steps generalizing r with
  | nil => rfl
  | cons s steps ih => exact congrArg Nat.succ (ih (r.step s).1)

end Registry

theorem Ledger.ofRun_concat (steps : List Step) (s : Step) :
    ofRun (steps ++ [s]) =
      (ofRun steps).record (s, ((Registry.after {} steps).step s).2) := by
  unfold ofRun
  rw [Registry.run_append, List.zip_append (Registry.length_run _ _).symm, List.foldl_append]
  rfl

end RuleGate.Shutdown
