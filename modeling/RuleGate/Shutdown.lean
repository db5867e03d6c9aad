/-! # Shutdown coordination

A coordinator tells all its subscribers to stop. Its clones share its subscribers, and a channel
lives as long as one handle on it. A channel keeps one signal: a subscriber that missed older ones
is told how many before it gets the one kept. A signal without subscribers is not kept.
-/
namespace RuleGate.Shutdown

/-- A subscription to a channel and the number of signals it has passed. -/
structure Subscription where
  channel : Nat
  passed : Nat
  deriving DecidableEq, Repr

/-- All coordinators of a run. `sent` has the number of signals of each channel; handles are
channel numbers; what has been dropped is `none`. -/
structure Registry where
  sent : List Nat := [0]
  handles : List (Option Nat) := [some 0]
  subscriptions : List (Option Subscription) := []
  deriving DecidableEq, Repr

inductive Step where
  | new
  | clone (handle : Nat)
  | subscribe (handle : Nat)
  | trigger (handle : Nat)
  | count (handle : Nat)
  | dropHandle (handle : Nat)
  | dropSubscription (subscription : Nat)
  | receive (subscription : Nat)
  deriving DecidableEq, Repr

/-- What a step answers. -/
inductive Answer where
  | number (n : Nat)
  | nothing
  | signal
  | empty
  | closed
  | lagged (missed : Nat)
  | missing
  deriving DecidableEq, Repr

namespace Registry

/-- The channel of a live handle. -/
def channel? (r : Registry) (handle : Nat) : Option Nat := (r.handles[handle]?).join

/-- How many subscriptions to a channel are live. -/
def subscribers (r : Registry) (channel : Nat) : Nat :=
  r.subscriptions.countP fun s => s.any fun s => s.channel == channel

/-- Whether a channel has a live handle. -/
def isOpen (r : Registry) (channel : Nat) : Bool := r.handles.contains (some channel)

def sentOn (r : Registry) (channel : Nat) : Nat := r.sent.getD channel 0

def receive (r : Registry) (i : Nat) : Registry × Answer :=
  match (r.subscriptions[i]?).join with
  | none => (r, .missing)
  | some s =>
    let sent := r.sentOn s.channel
    let passing (n : Nat) : Registry :=
      { r with subscriptions := r.subscriptions.set i (some { s with passed := n }) }
    if s.passed = sent then (r, if r.isOpen s.channel then .empty else .closed)
    else if s.passed + 1 = sent then (passing sent, .signal)
    else (passing (sent - 1), .lagged (sent - 1 - s.passed))

/-- Send a signal on a channel. It reaches all subscriptions to the channel and is kept for them;
without any, sending fails. -/
def send (r : Registry) (channel : Nat) : Registry × Option Nat :=
  let n := r.subscribers channel
  if n = 0 then (r, none)
  else ({ r with sent := r.sent.set channel (r.sentOn channel + 1) }, some n)

/-- Do a step on a handle that is live. -/
def onHandle (r : Registry) (handle : Nat) (f : (channel : Nat) → Registry × Answer) :
    Registry × Answer :=
  match r.channel? handle with
  | some c => f c
  | none => (r, .missing)

def step (r : Registry) : Step → Registry × Answer
  | .new =>
    ({ r with sent := r.sent ++ [0], handles := r.handles ++ [some r.sent.length] },
      .number r.handles.length)
  | .clone h => r.onHandle h fun c =>
    ({ r with handles := r.handles ++ [some c] }, .number r.handles.length)
  | .subscribe h => r.onHandle h fun c =>
    ({ r with subscriptions := r.subscriptions ++ [some ⟨c, r.sentOn c⟩] },
      .number r.subscriptions.length)
  | .trigger h => r.onHandle h fun c =>
    let (r, reached) := r.send c
    (r, .number (reached.getD 0))
  | .count h => r.onHandle h fun c => (r, .number (r.subscribers c))
  | .dropHandle h => r.onHandle h fun _ => ({ r with handles := r.handles.set h none }, .nothing)
  | .dropSubscription i => ({ r with subscriptions := r.subscriptions.set i none }, .nothing)
  | .receive i => r.receive i

/-- The answers of steps in turn. -/
def run (r : Registry) : List Step → List Answer
  | [] => []
  | s :: steps =>
    let (r, answer) := r.step s
    answer :: r.run steps

end Registry

end RuleGate.Shutdown
