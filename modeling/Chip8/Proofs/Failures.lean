import Chip8.Proofs.Clock
import Chip8.Proofs.Invariant

/-!
# What can go wrong

Actions that fail for some reasons only. Keys that exist can always be held, time that does not run backwards can always
pass, and then a frame of a machine whose fields are in range ends early for nothing but a fault (`frame_failsOnly`).
-/

namespace Chip8

section States

variable {ε σ α β : Type} {P : σ → Prop} {E : ε → Prop}

/-- If an action fails in a state with a property, then for one of some reasons. -/
def FailsOnly (P : σ → Prop) (E : ε → Prop) (act : EStateM ε σ α) : Prop :=
  ∀ s e t, P s → act s = .error e t → E e

lemma failsOnly_pure (a : α) : FailsOnly P E (pure a : EStateM ε σ α) := by
  intro s e t _ hrun
  cases hrun

lemma failsOnly_modify (f : σ → σ) : FailsOnly P E (modify f : EStateM ε σ PUnit) := by
  intro s e t _ hrun
  cases hrun

lemma failsOnly_bind {act : EStateM ε σ α} {next : α → EStateM ε σ β} (hkeep : Keeps P act) (hact : FailsOnly P E act)
    (hnext : ∀ a, FailsOnly P E (next a)) : FailsOnly P E (act >>= next) := by
  intro s e t hs hrun
  have hmiddle := hkeep s hs
  cases hfirst : act s with
  | ok a u =>
    rw [bind_of_ok hfirst] at hrun
    rw [hfirst] at hmiddle
    exact hnext a u e t hmiddle hrun
  | error e' u =>
    rw [bind_of_error hfirst] at hrun
    cases hrun
    exact hact s _ _ hs hfirst

lemma failsOnly_forM (l : List α) {act : α → EStateM ε σ PUnit} (hkeep : ∀ a, Keeps P (act a))
    (hact : ∀ a, FailsOnly P E (act a)) : FailsOnly P E (l.forM act) := by
  induction l with
  | nil => exact failsOnly_pure _
  | cons a l ih => exact failsOnly_bind (hkeep a) (hact a) fun _ => ih

end States

def Failure.IsFault (e : Failure) : Prop := ∃ f, e = .fault f

lemma setKeys_failsOnly {P : Machine → Prop} {E : Failure → Prop} (haside : KeptAside P) (codes : List Int) :
    FailsOnly P E (Action.setKeys codes) := by
  apply failsOnly_forM
  · intro key
    split
    · exact keeps_pressKey haside.pressed _
    · exact keeps_releaseKey haside.released _
  · intro key m e t _ hrun
    split at hrun
    · rw [Action.pressKey_run, slot?_val] at hrun
      cases hrun
    · rw [Action.releaseKey_run, slot?_val] at hrun
      cases hrun

section Consoles

variable {τ α : Type} {P : Machine → Prop} {E : Failure → Prop}

lemma onMachine_failsOnly {act : Action α} (hact : FailsOnly P E act) :
    FailsOnly (fun c : Console τ => P c.machine) E (Console.onMachine act) := by
  intro c e d hc hrun
  cases hfirst : act c.machine with
  | ok a m =>
    rw [onMachine_of_ok hfirst] at hrun
    cases hrun
  | error e' m =>
    rw [onMachine_of_error hfirst] at hrun
    cases hrun
    exact hact _ _ _ hc hfirst

lemma times_failsOnly {Q : Console τ → Prop} {act : Console.Action τ Unit} (hkeep : Keeps Q act)
    (hact : FailsOnly Q E act) (n : Nat) : FailsOnly Q E (Console.times act n) := by
  induction n with
  | zero => exact failsOnly_pure _
  | succ n ih => exact failsOnly_bind hkeep hact fun _ => ih

variable [Duration τ]

lemma update_of_forward {elapsed : τ} (hforward : ¬elapsed < Duration.ofNat 0) (c : Console τ) :
    ∃ ticks d, Console.update elapsed c = .ok ticks d := by
  rw [update_run, Timers.advance, if_neg hforward]
  exact ⟨_, _, rfl⟩

lemma update_failsOnly {Q : Console τ → Prop} {elapsed : τ} (hforward : ¬elapsed < Duration.ofNat 0) :
    FailsOnly Q E (Console.update elapsed) := by
  intro c e t _ hrun
  obtain ⟨ticks, d, hok⟩ := update_of_forward hforward c
  rw [hok] at hrun
  cases hrun

lemma step_failsOnly (around : Surroundings) {elapsed : τ} (hforward : ¬elapsed < Duration.ofNat 0) :
    FailsOnly (fun c : Console τ => c.machine.WellFormed) Failure.IsFault (Console.step around elapsed) := by
  have hupdate := keeps_update Machine.wellFormed_keptAside.ticked elapsed
  refine failsOnly_bind hupdate (update_failsOnly hforward) fun _ => ?_
  apply onMachine_failsOnly
  intro m e t hm hrun
  obtain ⟨f, rfl, -⟩ := Machine.fault_of_step_error hm hrun
  exact ⟨f, rfl⟩

/-- A frame ends early only by a fault. -/
theorem frame_failsOnly (around : Surroundings) {elapsed : τ} (hforward : ¬elapsed < Duration.ofNat 0)
    (hstill : ¬(Duration.ofNat 0 : τ) < Duration.ofNat 0) (instructions : Int) :
    FailsOnly (fun c : Console τ => c.machine.WellFormed) Failure.IsFault
      (Console.frame around elapsed instructions) := by
  have hticked := Machine.wellFormed_keptAside.ticked
  have hstep := keeps_step hticked (Machine.step_keeps_wellFormed around) (Duration.ofNat 0 : τ)
  have hkeep : Keeps (fun c : Console τ => c.machine.WellFormed) (do let _ ← Console.step around (Duration.ofNat 0)) :=
    keeps_bind hstep fun _ => keeps_pure _
  refine failsOnly_bind (keeps_update hticked elapsed) (update_failsOnly hforward) fun ticks => ?_
  refine failsOnly_bind (keeps_times hkeep _) (times_failsOnly hkeep ?_ _) fun _ => ?_
  · exact failsOnly_bind hstep (step_failsOnly around hstill) fun _ => failsOnly_pure _
  · exact failsOnly_bind (keeps_modify fun _ h => h) (failsOnly_modify _) fun _ => failsOnly_pure _

end Consoles

end Chip8
