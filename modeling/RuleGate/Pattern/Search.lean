import RuleGate.Pattern.Program
import RuleGate.Unicode.Property

/-! # Searching a text

A program runs over a text with all its threads at once, in order of preference, so that the
leftmost match is found and of those at its place the one that the pattern prefers. A thread that
meets a place in the program where a preferred thread has been stops there.
-/
namespace RuleGate.Pattern

open Unicode

/-- The characters around a place in a text. -/
structure Place where
  index : Nat
  before : Option Char
  after : Option Char

def isWord (unicode : Bool) (c : Option Char) : Bool :=
  match c with
  | none => false
  | some c =>
    if c.toNat < 0x80 then Text.isLetter c || Text.isDigit c || c == '_'
    else unicode && Ranges.contains Property.word c.toNat

def Look.holds (l : Look) (p : Place) : Bool :=
  match l with
  | .textStart => p.before.isNone
  | .textEnd => p.after.isNone
  | .lineStart crlf =>
    p.before.isNone || p.before == some '\n' ||
      (crlf && p.before == some '\r' && p.after != some '\n')
  | .lineEnd crlf =>
    p.after.isNone || (crlf && p.after == some '\r') ||
      (p.after == some '\n' && !(crlf && p.before == some '\r'))
  | .wordEdge u => isWord u p.before != isWord u p.after
  | .noWordEdge u => isWord u p.before == isWord u p.after
  | .wordStart u => !isWord u p.before && isWord u p.after
  | .wordEnd u => isWord u p.before && !isWord u p.after
  | .wordStartHalf u => !isWord u p.before
  | .wordEndHalf u => !isWord u p.after

/-- The places at which groups began and ended, by slot. -/
abbrev Slots := List (Option Nat)

structure Thread where
  next : Nat
  slots : Slots

/-- The threads waiting at a place, and for each instruction the place at which a thread has last
been there, counted from one. -/
structure Threads where
  waiting : Array Thread
  seen : Array Nat

/-- Run threads, the preferred first, until they wait for a character or accept. -/
def Program.follow (p : Program) (place : Place) : (fuel : Nat) → List Thread → Threads → Threads
  | 0, _, ts => ts
  | _ + 1, [], ts => ts
  | fuel + 1, t :: rest, ⟨waiting, seen⟩ =>
    if seen.getD t.next 0 = place.index + 1 then p.follow place fuel rest ⟨waiting, seen⟩
    else
      let seen := seen.setIfInBounds t.next (place.index + 1)
      match p.instructions[t.next]? with
      | none => p.follow place fuel rest ⟨waiting, seen⟩
      | some (.look l next) =>
        p.follow place fuel (if l.holds place then { t with next } :: rest else rest)
          ⟨waiting, seen⟩
      | some (.save slot next) =>
        p.follow place fuel (⟨next, t.slots.set slot (some place.index)⟩ :: rest) ⟨waiting, seen⟩
      | some (.branch preferred other) =>
        p.follow place fuel ({ t with next := preferred } :: { t with next := other } :: rest)
          ⟨waiting, seen⟩
      | some (.set _ _) | some .accept => p.follow place fuel rest ⟨waiting.push t, seen⟩

/-- Every instruction is entered once at a place and adds at most one thread. -/
def Program.fuel (p : Program) : Nat := 2 * p.instructions.size + 4

/-- Move the waiting threads at `here` over the next character, if there is one. A thread that
accepts is the match so far, and the threads after it are dropped. -/
def Program.advance (p : Program) (here : Nat) (passed : Option (Char × Place)) :
    List Thread → Threads → Option Slots → Threads × Option Slots
  | [], ts, best => (ts, best)
  | t :: rest, ts, best =>
    match p.instructions[t.next]?, passed with
    | some .accept, _ => (ts, some (t.slots.set 1 (some here)))
    | some (.set r next), some (c, place) =>
      let ts := if Ranges.contains r c.toNat then p.follow place p.fuel [{ t with next }] ts else ts
      p.advance here passed rest ts best
    | _, _ => p.advance here passed rest ts best

/-- Search from a place on. New threads start at every place until a match is found. -/
def Program.run (p : Program) (groups : Nat) :
    Text → (index : Nat) → (before : Option Char) → Threads → Option Slots → Option Slots
  | t, index, before, ts, best =>
    let ts :=
      if best.isNone then
        let blank := List.replicate (2 * groups + 2) none
        p.follow ⟨index, before, t.head?⟩ p.fuel [⟨p.start, blank.set 0 (some index)⟩] ts
      else ts
    if ts.waiting.isEmpty && best.isSome then best
    else
      let moved (passed : Option (Char × Place)) :=
        p.advance index passed ts.waiting.toList ⟨#[], ts.seen⟩ best
      match t with
      | [] => (moved none).2
      | c :: r =>
        let (next, best) := moved (some (c, ⟨index + 1, some c, r.head?⟩))
        p.run groups r (index + 1) (some c) next best

/-- The slots of the leftmost match in a text. -/
def Program.search (p : Program) (groups : Nat) (t : Text) : Option Slots :=
  p.run groups t 0 none ⟨#[], Array.replicate p.instructions.size 0⟩ none

end RuleGate.Pattern
