import RuleGate.Proofs.Shutdown.Ledger

/-! # Channels and ledgers

A registry files handles and subscriptions under channels. The ledger of its run describes it: two
handles are on the same channel exactly if they come from the same coordinator, and what is filed
under a channel is what the ledger has for the handles on it. Every step keeps to this.
-/
namespace RuleGate.Shutdown

/-! ## Subscriptions with their numbers -/

namespace Registry

/-- The subscriptions that are left, by number and channel, when the first has number `i`. -/
def liveFrom : Nat → List (Option Subscription) → List (Nat × Nat)
  | _, [] => []
  | i, none :: l => liveFrom (i + 1) l
  | i, some s :: l => (i, s.channel) :: liveFrom (i + 1) l

variable {r : Registry} {l : List (Option Subscription)} {s t : Subscription} {i j c h : Nat}

theorem liveFrom_append (i : Nat) (l k : List (Option Subscription)) :
    liveFrom i (l ++ k) = liveFrom i l ++ liveFrom (i + l.length) k := by
  induction l generalizing i with
  | nil => rfl
  | cons o l ih =>
    rw [List.length_cons, Nat.add_comm l.length 1, ← Nat.add_assoc]
    cases o with
    | none => exact ih (i + 1)
    | some s => exact congrArg ((i, s.channel) :: ·) (ih (i + 1))

theorem le_of_mem_liveFrom (hmem : (j, c) ∈ liveFrom i l) : i ≤ j := by
  induction l generalizing i with
  | nil => exact absurd hmem List.not_mem_nil
  | cons o l ih =>
    cases o with
    | none => exact Nat.le_of_succ_le (ih hmem)
    | some s =>
      rcases List.mem_cons.mp hmem with heq | hmem
      · exact Nat.le_of_eq (congrArg Prod.fst heq).symm
      · exact Nat.le_of_succ_le (ih hmem)

theorem nodup_liveFrom (i : Nat) (l : List (Option Subscription)) :
    ((liveFrom i l).map Prod.fst).Nodup := by
  induction l generalizing i with
  | nil => exact List.nodup_nil
  | cons o l ih =>
    cases o with
    | none => exact ih (i + 1)
    | some s =>
      refine List.nodup_cons.mpr ⟨fun hmem => ?_, ih (i + 1)⟩
      obtain ⟨p, hp, heq⟩ := List.mem_map.mp hmem
      have := le_of_mem_liveFrom (j := p.1) (c := p.2) hp
      omega

theorem exists_of_mem_liveFrom (hmem : (i + j, c) ∈ liveFrom i l) :
    ∃ s, l[j]? = some (some s) ∧ s.channel = c := by
  induction l generalizing i j with
  | nil => exact absurd hmem List.not_mem_nil
  | cons o l ih =>
    have hlater (hmem : (i + j, c) ∈ liveFrom (i + 1) l) :
        ∃ s, (o :: l)[j]? = some (some s) ∧ s.channel = c := by
      obtain ⟨k, rfl⟩ : ∃ k, j = k + 1 :=
        Nat.exists_eq_succ_of_ne_zero (by have := le_of_mem_liveFrom hmem; omega)
      refine ih (i := i + 1) ?_
      rw [Nat.add_right_comm]
      exact hmem
    cases o with
    | none => exact hlater hmem
    | some s =>
      rcases List.mem_cons.mp hmem with heq | hmem
      · obtain ⟨hj, hc⟩ := Prod.mk.inj heq
        obtain rfl : j = 0 := by omega
        exact ⟨s, rfl, hc.symm⟩
      · exact hlater hmem

theorem liveFrom_set_none (i j : Nat) (l : List (Option Subscription)) :
    liveFrom i (l.set j none) = (liveFrom i l).filter (·.1 != i + j) := by
  induction l generalizing i j with
  | nil => rfl
  | cons o l ih =>
    cases j with
    | zero =>
      have hlater : (liveFrom (i + 1) l).filter (·.1 != i) = liveFrom (i + 1) l := by
        refine List.filter_eq_self.mpr fun p hp => bne_iff_ne.mpr fun heq => ?_
        have := le_of_mem_liveFrom (j := p.1) (c := p.2) hp
        omega
      cases o with
      | none => exact hlater.symm
      | some s =>
        rw [List.set_cons_zero, liveFrom, liveFrom, List.filter_cons_of_neg (by simp)]
        exact hlater.symm
    | succ j =>
      have ih := ih (i + 1) j
      rw [Nat.add_assoc, Nat.add_comm 1] at ih
      cases o with
      | none => exact ih
      | some s =>
        rw [List.set_cons_succ, liveFrom, liveFrom, List.filter_cons_of_pos (by simp), ih]

theorem liveFrom_set_some (i : Nat) (hs : l[j]? = some (some s)) (ht : t.channel = s.channel) :
    liveFrom i (l.set j (some t)) = liveFrom i l := by
  induction l generalizing i j with
  | nil => rfl
  | cons o l ih =>
    cases j with
    | zero =>
      obtain rfl : o = some s := by simpa using hs
      rw [List.set_cons_zero, liveFrom, liveFrom, ht]
    | succ j =>
      have ih := ih (i + 1) (j := j) (by simpa using hs)
      cases o with
      | none => exact ih
      | some s => exact congrArg ((i, s.channel) :: ·) ih

theorem countP_liveFrom (i : Nat) (l : List (Option Subscription)) (c : Nat) :
    (liveFrom i l).countP (·.2 == c) = l.countP fun s => s.any fun s => s.channel == c := by
  induction l generalizing i with
  | nil => rfl
  | cons o l ih =>
    cases o with
    | none => rw [List.countP_cons_of_neg (by simp)]; exact ih (i + 1)
    | some s => rw [liveFrom, List.countP_cons, List.countP_cons, ih (i + 1)]; rfl

theorem getD_concat_zero (sent : List Nat) (c : Nat) :
    (sent ++ [0]).getD c 0 = sent.getD c 0 := by
  rw [List.getD_eq_getElem?_getD, List.getD_eq_getElem?_getD]
  rcases Nat.lt_or_ge c sent.length with hlt | hge
  · rw [List.getElem?_append_left hlt]
  · rw [List.getElem?_append_right hge, List.getElem?_eq_none hge]
    cases c - sent.length <;> rfl

theorem sentOn_set (r : Registry) (c k : Nat) :
    { r with sent := r.sent.set c (r.sentOn c + 1) }.sentOn k =
      if k = c ∧ c < r.sent.length then r.sentOn k + 1 else r.sentOn k := by
  unfold sentOn
  rw [List.getD_eq_getElem?_getD, List.getElem?_set]
  by_cases hk : k = c
  · subst hk
    by_cases hlt : k < r.sent.length <;> simp [hlt]
  · rw [if_neg (Ne.symm hk), if_neg fun h => hk h.1, List.getD_eq_getElem?_getD]

theorem sentOn_le_set (r : Registry) (c k : Nat) :
    r.sentOn k ≤ { r with sent := r.sent.set c (r.sentOn c + 1) }.sentOn k := by
  rw [sentOn_set]
  split <;> omega

theorem onHandle_eq (r : Registry) (h : Nat) (f : Nat → Registry × Answer) :
    r.onHandle h f =
      match r.channel? h with
      | some c => f c
      | none => (r, .missing) := rfl

theorem send_eq (r : Registry) (c : Nat) :
    r.send c =
      if r.subscribers c = 0 then (r, none)
      else ({ r with sent := r.sent.set c (r.sentOn c + 1) }, some (r.subscribers c)) := rfl

end Registry

/-! ## Ledgers that describe registries -/

namespace Ledger

/-- The ledger describes a registry in which handle number `h` is or was on channel `channel h`. -/
structure Describes (l : Ledger) (r : Registry) (channel : Nat → Nat) : Prop where
  handles : ∀ h, r.channel? h = if h ∈ l.held then some (channel h) else none
  listening : Registry.liveFrom 0 r.subscriptions = l.listening.map fun s => (s.1, channel s.2)
  made : ∀ s ∈ l.listening, s.2 < r.handles.length
  origin_lt : ∀ h < r.handles.length, l.origin h < r.handles.length
  channel_lt : ∀ h < r.handles.length, channel h < r.sent.length
  channel_eq_iff : ∀ g < r.handles.length, ∀ h < r.handles.length,
    channel g = channel h ↔ l.origin g = l.origin h
  passed : ∀ s, some s ∈ r.subscriptions → s.passed ≤ r.sentOn s.channel

def Follows (l : Ledger) (s : Step) (next : Registry × Answer) : Prop :=
  ∃ channel, (l.record (s, next.2)).Describes next.1 channel

theorem describes_start : Describes {} {} fun _ => 0 where
  handles h := by
    cases h with
    | zero => rfl
    | succ h => simp [Registry.channel?]
  listening := rfl
  made := List.forall_mem_nil _
  origin_lt _ hh := hh
  channel_lt _ _ := Nat.one_pos
  channel_eq_iff g hg h hh := by
    obtain rfl := Nat.lt_one_iff.mp hg
    obtain rfl := Nat.lt_one_iff.mp hh
    exact iff_of_true rfl rfl
  passed _ hs := absurd hs List.not_mem_nil

namespace Describes

variable {l : Ledger} {r : Registry} {channel : Nat → Nat} {h i o c : Nat}

theorem channel?_of_held (hd : l.Describes r channel) (hh : h ∈ l.held) :
    r.channel? h = some (channel h) := by
  rw [hd.handles, if_pos hh]

theorem lt_of_held (hd : l.Describes r channel) (hh : h ∈ l.held) : h < r.handles.length := by
  have hch := hd.channel?_of_held hh
  refine Nat.lt_of_not_le fun hle => ?_
  rw [Registry.channel?, List.getElem?_eq_none hle] at hch
  exact absurd hch nofun

/-- A step on a handle is done on its channel, and not at all if the handle has been dropped. -/
theorem onHandle {P : Registry × Answer → Prop} {f : Nat → Registry × Answer}
    (hd : l.Describes r channel) (hmissing : P (r, .missing))
    (hheld : h ∈ l.held → P (f (channel h))) : P (r.onHandle h f) := by
  rw [Registry.onHandle_eq, hd.handles]
  by_cases hh : h ∈ l.held
  · rw [if_pos hh]
    exact hheld hh
  · rw [if_neg hh]
    exact hmissing

theorem onHandle_of_held (hd : l.Describes r channel) (hh : h ∈ l.held)
    (f : Nat → Registry × Answer) : r.onHandle h f = f (channel h) := by
  rw [Registry.onHandle_eq, hd.channel?_of_held hh]

/-- A new handle gets the next number. It is on the channel of the handles from its coordinator,
and on a new one if there are none. -/
theorem hold (hd : l.Describes r channel) (sent : List Nat)
    (hlen : r.sent.length ≤ sent.length) (hsent : ∀ c, sent.getD c 0 = r.sentOn c)
    (ho : o ≤ r.handles.length) (hc : c < sent.length)
    (hsame : ∀ g < r.handles.length, channel g = c ↔ l.origin g = o) :
    (l.hold r.handles.length o).Describes
      { r with sent := sent, handles := r.handles ++ [some c] }
      (Function.update channel r.handles.length c) where
  handles h := by
    by_cases hh : h = r.handles.length
    · subst hh
      simp [Registry.channel?, Ledger.hold]
    · have hold : ((r.handles ++ [some c])[h]?).join = r.channel? h := by
        rcases Nat.lt_or_gt_of_ne hh with hlt | hgt
        · rw [List.getElem?_append_left hlt]
          rfl
        · rw [Registry.channel?, List.getElem?_eq_none (Nat.le_of_lt hgt),
            List.getElem?_eq_none (by simpa using Nat.succ_le_of_lt hgt)]
      rw [Registry.channel?, hold, hd.handles, Function.update_of_ne hh]
      simp [Ledger.hold, hh]
  listening := by
    rw [hd.listening]
    refine List.map_congr_left fun s hs => ?_
    rw [Function.update_of_ne (Nat.ne_of_lt (hd.made s hs))]
  made s hs := by
    rw [List.length_append, List.length_singleton]
    exact Nat.lt_succ_of_lt (hd.made s hs)
  origin_lt h hh := by
    rw [List.length_append, List.length_singleton] at hh ⊢
    rcases Nat.lt_succ_iff_lt_or_eq.mp hh with hh | rfl
    · rw [origin_hold_of_ne (Nat.ne_of_lt hh)]
      exact Nat.lt_succ_of_lt (hd.origin_lt h hh)
    · rw [origin_hold_self]
      exact Nat.lt_succ_of_le ho
  channel_lt h hh := by
    rw [List.length_append, List.length_singleton] at hh
    rcases Nat.lt_succ_iff_lt_or_eq.mp hh with hh | rfl
    · rw [Function.update_of_ne (Nat.ne_of_lt hh)]
      exact Nat.lt_of_lt_of_le (hd.channel_lt h hh) hlen
    · rw [Function.update_self]
      exact hc
  channel_eq_iff g hg h hh := by
    rw [List.length_append, List.length_singleton] at hg hh
    rcases Nat.lt_succ_iff_lt_or_eq.mp hg with hg | rfl <;>
      rcases Nat.lt_succ_iff_lt_or_eq.mp hh with hh | rfl
    · rw [Function.update_of_ne (Nat.ne_of_lt hg), Function.update_of_ne (Nat.ne_of_lt hh),
        origin_hold_of_ne (Nat.ne_of_lt hg), origin_hold_of_ne (Nat.ne_of_lt hh)]
      exact hd.channel_eq_iff g hg h hh
    · rw [Function.update_of_ne (Nat.ne_of_lt hg), Function.update_self,
        origin_hold_of_ne (Nat.ne_of_lt hg), origin_hold_self]
      exact hsame g hg
    · rw [Function.update_of_ne (Nat.ne_of_lt hh), Function.update_self,
        origin_hold_of_ne (Nat.ne_of_lt hh), origin_hold_self, eq_comm, eq_comm (a := o)]
      exact hsame h hh
    · exact iff_of_true rfl rfl
  passed s hs := by
    rw [Registry.sentOn, hsent]
    exact hd.passed s hs

theorem subscribe (hd : l.Describes r channel) (hh : h ∈ l.held) :
    Describes { l with listening := l.listening ++ [(r.subscriptions.length, h)] }
      { r with
        subscriptions := r.subscriptions ++ [some ⟨channel h, r.sentOn (channel h)⟩] } channel :=
  { hd with
    listening := by
      rw [Registry.liveFrom_append, hd.listening, List.map_append, Nat.zero_add]
      rfl
    made := fun s hs => by
      rcases List.mem_append.mp hs with hs | hs
      · exact hd.made s hs
      · rw [List.mem_singleton.mp hs]
        exact hd.lt_of_held hh
    passed := fun s hs => by
      rcases List.mem_append.mp hs with hs | hs
      · exact hd.passed s hs
      · obtain rfl := Option.some.inj (List.mem_singleton.mp hs)
        exact Nat.le_refl _ }

theorem send (hd : l.Describes r channel) (c : Nat) : l.Describes (r.send c).1 channel := by
  rw [Registry.send_eq]
  split
  · exact hd
  · exact
      { hd with
        channel_lt := by
          rw [List.length_set]
          exact hd.channel_lt
        passed := fun s hs => Nat.le_trans (hd.passed s hs) (Registry.sentOn_le_set r c s.channel) }

theorem dropHandle (hd : l.Describes r channel) (h : Nat) :
    Describes { l with held := l.held.filter (· != h) }
      { r with handles := r.handles.set h none } channel := by
  have hlen : (r.handles.set h none).length = r.handles.length := List.length_set
  exact
    { hd with
      handles := fun k => by
        rw [Registry.channel?, List.getElem?_set]
        by_cases hk : k = h
        · subst hk
          have hnot : k ∉ l.held.filter (· != k) := by simp
          rw [if_pos rfl, if_neg hnot]
          split <;> rfl
        · rw [if_neg (Ne.symm hk)]
          change r.channel? k = _
          rw [hd.handles]
          simp [hk]
      made := hlen ▸ hd.made
      origin_lt := hlen ▸ hd.origin_lt
      channel_lt := hlen ▸ hd.channel_lt
      channel_eq_iff := hlen ▸ hd.channel_eq_iff }

theorem dropSubscription (hd : l.Describes r channel) (i : Nat) :
    Describes { l with listening := l.listening.filter (·.1 != i) }
      { r with subscriptions := r.subscriptions.set i none } channel :=
  { hd with
    listening := by
      rw [Registry.liveFrom_set_none, hd.listening, List.filter_map, Nat.zero_add]
      rfl
    made := fun s hs => hd.made s (List.mem_of_mem_filter hs)
    passed := fun s hs => hd.passed s
      ((List.mem_or_eq_of_mem_set hs).resolve_right nofun) }

theorem moveOn {s : Subscription} {n : Nat} (hd : l.Describes r channel)
    (hs : r.subscriptions[i]? = some (some s)) (hn : n ≤ r.sentOn s.channel) :
    l.Describes
      { r with subscriptions := r.subscriptions.set i (some { s with passed := n }) } channel :=
  { hd with
    listening := by
      have hkept := Registry.liveFrom_set_some (t := { s with passed := n }) 0 hs rfl
      exact hkept.trans hd.listening
    passed := fun t ht => by
      rcases List.mem_or_eq_of_mem_set ht with ht | ht
      · exact hd.passed t ht
      · obtain rfl := Option.some.inj ht
        exact hn }

theorem receive (hd : l.Describes r channel) (i : Nat) : l.Describes (r.receive i).1 channel := by
  unfold Registry.receive
  split
  · exact hd
  · rename_i s hs
    rw [Option.join_eq_some_iff] at hs
    dsimp only
    split
    · exact hd
    · split
      · exact hd.moveOn hs (Nat.le_refl _)
      · exact hd.moveOn hs (Nat.sub_le _ 1)

/-- Whatever the next step is, the ledger goes on to describe the registry. -/
theorem step (hd : l.Describes r channel) (s : Step) : l.Follows s (r.step s) := by
  cases s with
  | new =>
    refine ⟨_, hd.hold (r.sent ++ [0]) ?_ (Registry.getD_concat_zero r.sent) (Nat.le_refl _) ?_
      fun g hg => ?_⟩
    · simp
    · simp
    · exact iff_of_false (Nat.ne_of_lt (hd.channel_lt g hg)) (Nat.ne_of_lt (hd.origin_lt g hg))
  | clone h =>
    refine hd.onHandle ⟨channel, hd⟩ fun hh => ?_
    have hlt := hd.lt_of_held hh
    exact ⟨_, hd.hold r.sent (Nat.le_refl _) (fun _ => rfl) (Nat.le_of_lt (hd.origin_lt h hlt))
      (hd.channel_lt h hlt) fun g hg => hd.channel_eq_iff g hg h hlt⟩
  | subscribe h => exact hd.onHandle ⟨channel, hd⟩ fun hh => ⟨channel, hd.subscribe hh⟩
  | trigger h => exact hd.onHandle ⟨channel, hd⟩ fun _ => ⟨channel, hd.send (channel h)⟩
  | count h => exact hd.onHandle ⟨channel, hd⟩ fun _ => ⟨channel, hd⟩
  | dropHandle h => exact hd.onHandle ⟨channel, hd⟩ fun _ => ⟨channel, hd.dropHandle h⟩
  | dropSubscription i => exact ⟨channel, hd.dropSubscription i⟩
  | receive i => exact ⟨channel, hd.receive i⟩

end Describes

end Ledger

end RuleGate.Shutdown
