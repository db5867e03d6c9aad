import Mathlib.Data.List.Induction
import RuleGate.Proofs.Shutdown.Channels

/-! # The accounts of a coordinator

The ledger of every run describes its registry. So a coordinator counts the listeners that the
ledger has for it, on whichever of its handles it is asked, and a signal gets to all of them. The
listeners only change with a subscription to that coordinator that is made or dropped.
-/
namespace RuleGate.Shutdown

/-! ## One step -/

namespace Registry

variable {r : Registry} {s : Subscription} {c i : Nat}

/-- A signal without subscribers is not sent, and this counts as none reached. -/
theorem getD_send (r : Registry) (c : Nat) : (r.send c).2.getD 0 = r.subscribers c := by
  rw [send_eq]
  split
  · rename_i hnone
    exact hnone.symm
  · rfl

theorem sentOn_send (hs : some s ∈ r.subscriptions) (hc : s.channel = c) (hlt : c < r.sent.length) :
    (r.send c).1.sentOn c = r.sentOn c + 1 := by
  have hsome : r.subscribers c ≠ 0 := by
    refine Nat.ne_of_gt (List.countP_pos_iff.mpr ⟨some s, hs, ?_⟩)
    simpa using hc
  rw [send_eq, if_neg hsome, sentOn_set, if_pos ⟨rfl, hlt⟩]

theorem subscriptions_send (r : Registry) (c : Nat) :
    (r.send c).1.subscriptions = r.subscriptions := by
  rw [send_eq]
  split <;> rfl

theorem handles_send (r : Registry) (c : Nat) : (r.send c).1.handles = r.handles := by
  rw [send_eq]
  split <;> rfl

theorem handles_receive (r : Registry) (i : Nat) : (r.receive i).1.handles = r.handles := by
  unfold receive
  split
  · rfl
  · dsimp only
    split
    · rfl
    · split <;> rfl

/-- A subscription is due a signal: it gets one next, or next after word of older ones it missed. -/
def Due (r : Registry) (i : Nat) : Prop :=
  r.run [.receive i] = [.signal] ∨
    ∃ missed, r.run [.receive i, .receive i] = [.lagged missed, .signal]

theorem receive_signal (hs : r.subscriptions[i]? = some (some s))
    (hone : s.passed + 1 = r.sentOn s.channel) : (r.receive i).2 = .signal := by
  simp only [receive, hs, Option.join_some]
  rw [if_neg (by omega), if_pos hone]

theorem receive_lagged (hs : r.subscriptions[i]? = some (some s))
    (hmore : s.passed + 1 < r.sentOn s.channel) :
    r.receive i =
      ({ r with subscriptions :=
          r.subscriptions.set i (some { s with passed := r.sentOn s.channel - 1 }) },
        .lagged (r.sentOn s.channel - 1 - s.passed)) := by
  simp only [receive, hs, Option.join_some]
  rw [if_neg (by omega), if_neg (by omega)]

theorem due_of_lt (hs : r.subscriptions[i]? = some (some s))
    (hlt : s.passed < r.sentOn s.channel) : r.Due i := by
  rcases Nat.eq_or_lt_of_le (Nat.succ_le_of_lt hlt) with hone | hmore
  · exact .inl (congrArg (· :: []) (receive_signal hs hone))
  · refine .inr ⟨r.sentOn s.channel - 1 - s.passed, ?_⟩
    have hi : i < r.subscriptions.length := (List.getElem?_eq_some_iff.mp hs).1
    change [(r.receive i).2, ((r.receive i).1.receive i).2] = _
    rw [receive_lagged hs hmore,
      receive_signal (s := { s with passed := r.sentOn s.channel - 1 }) (List.getElem?_set_self hi)]
    exact Nat.sub_add_cancel (by omega)

theorem length_handles_le_step (r : Registry) (s : Step) :
    r.handles.length ≤ (r.step s).1.handles.length := by
  have honHandle (h : Nat) (f : Nat → Registry × Answer)
      (hf : ∀ c, r.handles.length ≤ (f c).1.handles.length) :
      r.handles.length ≤ (r.onHandle h f).1.handles.length := by
    rw [onHandle_eq]
    split
    · exact hf _
    · exact Nat.le_refl _
  cases s with
  | new => simp [step]
  | clone h => exact honHandle h _ fun c => by simp
  | subscribe h => exact honHandle h _ fun c => Nat.le_refl _
  | trigger h =>
    exact honHandle h _ fun c => Nat.le_of_eq (congrArg List.length (r.handles_send c)).symm
  | count h => exact honHandle h _ fun c => Nat.le_refl _
  | dropHandle h => exact honHandle h _ fun c => by simp
  | dropSubscription i => exact Nat.le_refl _
  | receive i => exact Nat.le_of_eq (congrArg List.length (r.handles_receive i)).symm

end Registry

namespace Ledger

variable {l : Ledger} {r : Registry} {channel : Nat → Nat} {h i n o : Nat} {s : Step}

theorem listeners_hold (hh : h ≠ n) (hmade : ∀ s ∈ l.listening, s.2 ≠ n) :
    (l.hold n o).listeners h = l.listeners h := by
  refine congrArg (List.map Prod.fst) (List.filter_congr fun s hs => ?_)
  rw [origin_hold_of_ne (hmade s hs), origin_hold_of_ne hh]

namespace Describes

theorem subscribers (hd : l.Describes r channel) (hh : h < r.handles.length) :
    r.subscribers (channel h) = (l.listeners h).length := by
  rw [Registry.subscribers, ← Registry.countP_liveFrom 0, hd.listening, List.countP_map, listeners,
    List.length_map, ← List.countP_eq_length_filter]
  refine List.countP_congr fun s hs => ?_
  simpa using hd.channel_eq_iff s.2 (hd.made s hs) h hh

theorem nodup_listeners (hd : l.Describes r channel) (h : Nat) : (l.listeners h).Nodup := by
  have hfst : (Registry.liveFrom 0 r.subscriptions).map Prod.fst = l.listening.map Prod.fst := by
    rw [hd.listening, List.map_map]
    rfl
  have hall : (l.listening.map Prod.fst).Nodup := hfst ▸ Registry.nodup_liveFrom 0 _
  exact hall.sublist (List.filter_sublist.map _)

theorem step_count (hd : l.Describes r channel) (hh : h ∈ l.held) :
    (r.step (.count h)).2 = .number (l.listeners h).length := by
  change (r.onHandle h _).2 = _
  rw [hd.onHandle_of_held hh, hd.subscribers (hd.lt_of_held hh)]

theorem step_trigger (hd : l.Describes r channel) (hh : h ∈ l.held) :
    r.step (.trigger h) = ((r.send (channel h)).1, .number (l.listeners h).length) := by
  rw [← hd.subscribers (hd.lt_of_held hh), ← Registry.getD_send]
  exact hd.onHandle_of_held hh _

/-- A signal sent on a handle is kept for all its listeners. -/
theorem due_of_send (hd : l.Describes r channel) (hh : h < r.handles.length)
    (hi : i ∈ l.listeners h) : (r.send (channel h)).1.Due i := by
  obtain ⟨g, hg, horigin⟩ := mem_listeners.mp hi
  have hchannel : channel g = channel h :=
    (hd.channel_eq_iff g (hd.made _ hg) h hh).mpr horigin
  have hlive : (0 + i, channel g) ∈ Registry.liveFrom 0 r.subscriptions := by
    rw [hd.listening, Nat.zero_add]
    exact List.mem_map_of_mem hg
  obtain ⟨s, hs, hsg⟩ := Registry.exists_of_mem_liveFrom hlive
  have hsc : s.channel = channel h := hsg.trans hchannel
  have hmem : some s ∈ r.subscriptions := List.mem_of_getElem? hs
  refine Registry.due_of_lt (s := s) ?_ ?_
  · rw [Registry.subscriptions_send, hs]
  · rw [hsc, Registry.sentOn_send hmem hsc (hd.channel_lt h hh), ← hsc]
    exact Nat.lt_succ_of_le (hd.passed s hmem)

theorem listeners_record (hd : l.Describes r channel) (hh : h < r.handles.length)
    (hs : ¬ l.Concerns h s) :
    (l.record (s, (r.step s).2)).listeners h = l.listeners h := by
  have hnew (o : Nat) : (l.hold r.handles.length o).listeners h = l.listeners h :=
    listeners_hold (Nat.ne_of_lt hh) fun s hs => Nat.ne_of_lt (hd.made s hs)
  have honHandle (g : Nat) (f : Nat → Registry × Answer)
      (hmissing : l.record (s, .missing) = l)
      (hheld : (l.record (s, (f (channel g)).2)).listeners h = l.listeners h) :
      (l.record (s, (r.onHandle g f).2)).listeners h = l.listeners h :=
    hd.onHandle (P := fun next => (l.record (s, next.2)).listeners h = l.listeners h)
      (congrArg (listeners · h) hmissing) fun _ => hheld
  cases s with
  | new => exact hnew _
  | clone g => exact honHandle g _ rfl (hnew _)
  | subscribe g =>
    refine honHandle g _ rfl ?_
    change ((l.listening ++ [(_, g)]).filter fun s : Nat × Nat => l.origin s.2 == l.origin h).map
      Prod.fst = _
    rw [List.filter_append, List.filter_cons_of_neg (by simpa [Concerns] using hs), List.filter_nil,
      List.append_nil]
    rfl
  | trigger g => rfl
  | count g => rfl
  | dropHandle g => exact honHandle g _ rfl rfl
  | dropSubscription i =>
    change ((l.listening.filter (·.1 != i)).filter _).map Prod.fst = _
    rw [List.filter_comm, List.filter_eq_self.mpr fun s hmem => ?_]
    · rfl
    · refine bne_iff_ne.mpr fun heq => hs ?_
      exact heq ▸ List.mem_map_of_mem hmem
  | receive i => rfl

end Describes

end Ledger

/-! ## Runs -/

theorem Registry.length_handles_le_after (r : Registry) (steps : List Step) :
    r.handles.length ≤ (r.after steps).handles.length := by
  induction steps generalizing r with
  | nil => exact Nat.le_refl _
  | cons s steps ih => exact Nat.le_trans (r.length_handles_le_step s) (ih _)

namespace Ledger

theorem exists_describes (steps : List Step) :
    ∃ channel, (ofRun steps).Describes (Registry.after {} steps) channel := by
  induction steps using List.reverseRecOn with
  | nil => exact ⟨_, describes_start⟩
  | append_singleton steps s ih =>
    obtain ⟨channel, hd⟩ := ih
    rw [ofRun_concat, Registry.after_append]
    exact hd.step s

/-- The listeners of a handle stay the same in steps that make or drop none of them. -/
theorem listeners_ofRun_append {steps more : List Step} {h : Nat}
    (hh : h < (Registry.after {} steps).handles.length)
    (hmore : ∀ before s, before ++ [s] <+: more → ¬ (ofRun (steps ++ before)).Concerns h s) :
    (ofRun (steps ++ more)).listeners h = (ofRun steps).listeners h := by
  induction more using List.reverseRecOn with
  | nil => rw [List.append_nil]
  | append_singleton before s ih =>
    obtain ⟨channel, hd⟩ := exists_describes (steps ++ before)
    have hbefore := ih fun b s hb => hmore b s (hb.trans (List.prefix_append _ _))
    have hlt : h < (Registry.after {} (steps ++ before)).handles.length := by
      rw [Registry.after_append]
      exact Nat.lt_of_lt_of_le hh (Registry.length_handles_le_after _ _)
    rw [← List.append_assoc, ofRun_concat,
      hd.listeners_record hlt (hmore before s (List.prefix_refl _)), hbefore]

end Ledger

/-- After every run, on each handle that has not been dropped, a coordinator counts its listeners.
A signal sent there is said to reach as many, and all of them are due it. The listeners stay the
same as long as no subscription to the coordinator is made or dropped. -/
theorem run_listeners (steps : List Step) (h : Nat) (hheld : h ∈ (Ledger.ofRun steps).held) :
    let listeners := (Ledger.ofRun steps).listeners h
    listeners.Nodup ∧
      Registry.run {} (steps ++ [.count h]) =
        Registry.run {} steps ++ [.number listeners.length] ∧
      Registry.run {} (steps ++ [.trigger h]) =
        Registry.run {} steps ++ [.number listeners.length] ∧
      (∀ i ∈ listeners, (Registry.after {} (steps ++ [.trigger h])).Due i) ∧
      ∀ more : List Step,
        (∀ before s, before ++ [s] <+: more →
          ¬ (Ledger.ofRun (steps ++ before)).Concerns h s) →
        (Ledger.ofRun (steps ++ more)).listeners h = listeners := by
  obtain ⟨channel, hd⟩ := Ledger.exists_describes steps
  have hlt := hd.lt_of_held hheld
  have htrigger := hd.step_trigger hheld
  refine ⟨hd.nodup_listeners h, ?_, ?_, fun i hi => ?_,
    fun more => Ledger.listeners_ofRun_append hlt⟩
  · rw [Registry.run_append]
    exact congrArg (Registry.run {} steps ++ [·]) (hd.step_count hheld)
  · rw [Registry.run_append]
    exact congrArg (Registry.run {} steps ++ [·.2]) htrigger
  · rw [Registry.after_append]
    change ((Registry.after {} steps).step (.trigger h)).1.Due i
    rw [htrigger]
    exact hd.due_of_send hlt hi

/-- Handle 0 is dropped and then handle 1, its clone; handle 2 is a clone of handle 1, and handle 3
is on another coordinator. -/
theorem run_listeners_clones :
    let steps : List Step := [.subscribe 0, .clone 0, .subscribe 1, .dropHandle 0, .clone 1, .new,
      .subscribe 3, .trigger 1]
    2 ∈ (Ledger.ofRun steps).held ∧
      Registry.run {} (steps ++ [.count 2]) = Registry.run {} steps ++ [.number 2] ∧
      Registry.run {} (steps ++ [.trigger 2]) = Registry.run {} steps ++ [.number 2] ∧
      (∀ i ∈ [0, 1], (Registry.after {} (steps ++ [.trigger 2])).Due i) ∧
      (Ledger.ofRun (steps ++ [.dropHandle 1])).listeners 2 = [0, 1] := by
  intro steps
  have hheld : 2 ∈ (Ledger.ofRun steps).held := by decide
  have hlisteners : (Ledger.ofRun steps).listeners 2 = [0, 1] := by decide
  obtain ⟨-, hcount, htrigger, hdue, hmore⟩ := run_listeners steps 2 hheld
  rw [hlisteners] at hcount htrigger hdue hmore
  refine ⟨hheld, hcount, htrigger, hdue, hmore [.dropHandle 1] fun before s hprefix => ?_⟩
  obtain ⟨after, heq⟩ := hprefix
  obtain ⟨rfl, rfl⟩ : before = [] ∧ s = .dropHandle 1 := by
    cases before <;> simp_all
  exact id

end RuleGate.Shutdown
