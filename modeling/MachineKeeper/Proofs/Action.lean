import MachineKeeper.Action

/-! How a composed operation ran, read off its end: which of its parts ran, and what they left. A
relation between worlds that every part keeps is kept by the whole, whatever the outcome. -/
namespace MachineKeeper.Action

variable {ε δ α β : Type} {m : Action ε α} {f : α → Action ε β} {w w' : World}

instance : LawfulMonad (Action ε) := by
  refine LawfulMonad.mk' _ (fun m => ?_) (fun _ _ => rfl) (fun m f g => ?_)
  · funext w
    show (m >>= pure) w = m w
    rw [bind_run]
    split <;> next run => exact run.symm
  · funext w
    simp only [bind_run]
    rcases m w with ⟨_ | _ | _, w₁⟩ <;> rfl

/-- A run named by its two halves, for the lemmas that read a run backwards. -/
theorem run_halves (m : Action ε α) (w : World) : m w = ((m w).1, (m w).2) := rfl

/-- The second part runs where the first was done; else the first's end is the end. -/
theorem bind_cases {o : Outcome ε β} (run : (m >>= f) w = (o, w')) :
    (∃ a w₁, m w = (.done a, w₁) ∧ f a w₁ = (o, w')) ∨
    (∃ e, m w = (.failed e, w') ∧ o = .failed e) ∨ (m w = (.overflow, w') ∧ o = .overflow) := by
  rw [bind_run] at run
  split at run
  next a w₁ first => exact .inl ⟨a, w₁, first, run⟩
  next e w₁ first =>
    obtain ⟨rfl, rfl⟩ := Prod.mk.inj run
    exact .inr (.inl ⟨e, first, rfl⟩)
  next w₁ first =>
    obtain ⟨rfl, rfl⟩ := Prod.mk.inj run
    exact .inr (.inr ⟨first, rfl⟩)

theorem bind_done {b : β} (run : (m >>= f) w = (.done b, w')) :
    ∃ a w₁, m w = (.done a, w₁) ∧ f a w₁ = (.done b, w') := by
  rcases bind_cases run with done | ⟨e, _, same⟩ | ⟨_, same⟩
  · exact done
  · cases same
  · cases same

theorem bind_of_done {a : α} {w₁ : World} (first : m w = (.done a, w₁)) :
    (m >>= f) w = f a w₁ := by
  rw [bind_run, first]

theorem bind_of_failed {e : ε} {w₁ : World} (first : m w = (.failed e, w₁)) :
    (m >>= f) w = (.failed e, w₁) := by
  rw [bind_run, first]

theorem map_run (g : α → β) (m : Action ε α) (w : World) :
    (g <$> m) w = match m w with
      | (.done a, w) => (.done (g a), w)
      | (.failed e, w) => (.failed e, w)
      | (.overflow, w) => (.overflow, w) := rfl

/-- What is made of a value has nothing to do with the world that is left. -/
theorem map_world (g : α → β) (m : Action ε α) (w : World) : ((g <$> m) w).2 = (m w).2 := by
  rw [map_run]
  split <;> next run => rw [run]

theorem attempt_cases {o : Outcome δ (Except ε α)} (run : m.attempt w = (o, w')) :
    (∃ a, m w = (.done a, w') ∧ o = .done (.ok a)) ∨
    (∃ e, m w = (.failed e, w') ∧ o = .done (.error e)) ∨
    (m w = (.overflow, w') ∧ o = .overflow) := by
  unfold attempt at run
  split at run
  next a w₁ first =>
    obtain ⟨rfl, rfl⟩ := Prod.mk.inj run
    exact .inl ⟨a, first, rfl⟩
  next e w₁ first =>
    obtain ⟨rfl, rfl⟩ := Prod.mk.inj run
    exact .inr (.inl ⟨e, first, rfl⟩)
  next w₁ first =>
    obtain ⟨rfl, rfl⟩ := Prod.mk.inj run
    exact .inr (.inr ⟨first, rfl⟩)

theorem attempt_of_done {a : α} (run : m w = (.done a, w')) :
    (m.attempt : Action δ (Except ε α)) w = (.done (.ok a), w') := by
  rw [attempt, run]

theorem attempt_of_failed {e : ε} (run : m w = (.failed e, w')) :
    (m.attempt : Action δ (Except ε α)) w = (.done (.error e), w') := by
  rw [attempt, run]

theorem mapError_cases {g : ε → δ} {o : Outcome δ α} (run : m.mapError g w = (o, w')) :
    ∃ o₁, m w = (o₁, w') ∧ o = o₁.mapError g := by
  unfold mapError at run
  obtain ⟨rfl, rfl⟩ := Prod.mk.inj run
  exact ⟨_, rfl, rfl⟩

theorem mapError_of {g : ε → δ} {o : Outcome ε α} (run : m w = (o, w')) :
    m.mapError g w = (o.mapError g, w') := by
  rw [mapError, run]

/-- Whatever the outcome, the world that is left is in relation to the one that was found. -/
def Keeps (R : World → World → Prop) (m : Action ε α) : Prop := ∀ w, R w (m w).2

theorem Keeps.of_run {R : World → World → Prop} {o : Outcome ε α} (kept : Keeps R m)
    (run : m w = (o, w')) : R w w' := by
  have := kept w
  rwa [run] at this

theorem Keeps.mono {R S : World → World → Prop} (kept : Keeps R m) (weaker : ∀ {a b}, R a b → S a b) :
    Keeps S m :=
  fun w => weaker (kept w)

theorem Keeps.attempt {R : World → World → Prop} (kept : Keeps R m) :
    Keeps R (m.attempt : Action δ (Except ε α)) := by
  intro w
  have before := kept w
  unfold Action.attempt
  split <;> next run => rwa [run] at before

theorem Keeps.mapError {R : World → World → Prop} (kept : Keeps R m) (g : ε → δ) :
    Keeps R (m.mapError g) :=
  fun w => kept w

/-- A relation that holds over several parts in a row if it holds over each. -/
structure Frame (R : World → World → Prop) : Prop where
  refl : ∀ w, R w w
  trans : ∀ {a b c}, R a b → R b c → R a c

namespace Frame

variable {R : World → World → Prop} (frame : Frame R)
include frame

theorem pure (a : α) : Keeps R (Pure.pure a : Action ε α) := fun w => frame.refl w

theorem fail (e : ε) : Keeps R (Action.fail e : Action ε α) := fun w => frame.refl w

theorem ofExcept (x : Except ε α) : Keeps R (Action.ofExcept x) := by
  cases x with
  | ok a => exact fun w => frame.refl w
  | error e => exact fun w => frame.refl w

theorem bind (first : Keeps R m) (rest : ∀ a, Keeps R (f a)) : Keeps R (m >>= f) := by
  intro w
  have before := first w
  rw [bind_run]
  split
  next a w₁ run =>
    rw [run] at before
    exact frame.trans before (rest a w₁)
  next e w₁ run => rwa [run] at before
  next w₁ run => rwa [run] at before

end Frame

end MachineKeeper.Action
