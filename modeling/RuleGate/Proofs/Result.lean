/-! # Readers that may fail

A chain of readers succeeds exactly when each of them does on what the one before has read.
-/
namespace RuleGate

variable {ε ε' α β : Type} {x : Except ε α} {a : α} {b : β} {e : ε} {e' : ε'}

theorem bind_eq_ok {f : α → Except ε β} : x >>= f = .ok b ↔ ∃ a, x = .ok a ∧ f a = .ok b := by
  cases x <;> simp [bind, Except.bind]

theorem bind_eq_error {f : α → Except ε β} :
    x >>= f = .error e ↔ x = .error e ∨ ∃ a, x = .ok a ∧ f a = .error e := by
  cases x <;> simp [bind, Except.bind]

theorem toOption_bind (x : Except ε α) (f : α → Except ε β) :
    (x >>= f).toOption = x.toOption.bind fun a => (f a).toOption := by
  cases x <;> rfl

/-- Chains of related readers, after readers that read the same, have related results. -/
theorem rel_toOption_bind {γ : Type} {rel : β → γ → Prop} {y : Except ε α} {f : α → Except ε β}
    {g : α → Except ε γ} (hxy : x.toOption = y.toOption)
    (hfg : ∀ a, Option.Rel rel (f a).toOption (g a).toOption) :
    Option.Rel rel (x >>= f).toOption (y >>= g).toOption := by
  rw [toOption_bind, toOption_bind, hxy]
  cases y.toOption with
  | none => exact .none
  | some a => exact hfg a

theorem map_eq_ok {f : α → β} : x.map f = .ok b ↔ ∃ a, x = .ok a ∧ f a = b := by
  cases x <;> simp [Except.map]

theorem mapError_eq_ok {f : ε → ε'} : x.mapError f = .ok a ↔ x = .ok a := by
  cases x with
  | error _ => exact ⟨nofun, nofun⟩
  | ok _ =>
    rw [Except.ok.injEq]
    exact ⟨Except.ok.inj, congrArg Except.ok⟩

theorem mapError_eq_error {f : ε → ε'} :
    x.mapError f = .error e' ↔ ∃ e, x = .error e ∧ f e = e' := by
  cases x with
  | error e =>
    constructor
    · intro h
      exact ⟨e, rfl, Except.error.inj h⟩
    · rintro ⟨_, ⟨⟩, rfl⟩
      rfl
  | ok _ =>
    constructor
    · intro h
      cases h
    · rintro ⟨_, ⟨⟩, -⟩

theorem mapM_eq_some_self {f : α → Option α} {l : List α} (h : ∀ a ∈ l, f a = some a) :
    l.mapM f = some l := by
  induction l with
  | nil => rfl
  | cons a l ih =>
    obtain ⟨ha, hl⟩ := List.forall_mem_cons.mp h
    rw [List.mapM_cons, ha, ih hl]
    rfl

end RuleGate
