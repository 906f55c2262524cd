import Chip8.Proofs.Clock
import Mathlib.Data.Rat.Floor

/-!
# Ticks

The timers take whole periods off the time that has passed and carry the rest over. In exact arithmetic none of it is
lost: advancing by one time and then by another is advancing by both at once (`Console.after_after`). Both timers count
down once for every tick and stop at zero; the rest of the console stays as it is. A time below zero is refused and
changes nothing. Main statement: `ticks_follow_total_time`, for any number of updates.
-/

namespace Chip8

namespace Timers

section Loops

variable {τ : Type} [Duration τ]

/-- Periods are taken off a length of time as long as it holds one: how many there were, and what is left then. -/
inductive Spent (period : τ) : τ → Nat → τ → Prop
  | rest {left : τ} (hless : ¬period ≤ left) : Spent period left 0 left
  | tick {left rest : τ} {ticks : Nat} (hfull : period ≤ left) (hspent : Spent period (left - period) ticks rest) :
    Spent period left (ticks + 1) rest

/-- A bound on the number of periods makes no difference if it is large enough. -/
lemma takePeriods_of_spent {period left rest : τ} {ticks : Nat} (hspent : Spent period left ticks rest) {fuel : Nat}
    (hfuel : ticks ≤ fuel) (before : Nat) : takePeriods period fuel before left = (before + ticks, rest) := by
  induction hspent generalizing fuel before with
  | rest hless =>
    cases fuel with
    | zero => rfl
    | succ fuel =>
      rw [takePeriods, if_neg hless]
      rfl
  | @tick left rest ticks hfull _ ih =>
    cases fuel with
    | zero => omega
    | succ fuel =>
      have hcount : before + 1 + ticks = before + (ticks + 1) := by omega
      rw [takePeriods, if_pos hfull, ih (by omega), hcount]

end Loops

/-- Timers as they stand between two updates. -/
structure Settled (t : Timers Rat) : Prop where
  period : 0 < t.period
  carried : 0 ≤ t.carried
  less : t.carried < t.period

/-- The number of whole periods in what was carried over and some more time. -/
def ticksIn (t : Timers Rat) (elapsed : Rat) : Nat := ⌊(t.carried + elapsed) / t.period⌋.toNat

/-- The timers once some time has passed. -/
def after (t : Timers Rat) (elapsed : Rat) : Timers Rat :=
  { t with carried := t.carried + elapsed - t.ticksIn elapsed * t.period }

lemma spent_of_bounds {period left : Rat} (hpos : 0 < period) {n : Nat} (hlow : n * period ≤ left)
    (hhigh : left < (n + 1) * period) : Spent period left n (left - n * period) := by
  induction n generalizing left with
  | zero =>
    have hless : ¬period ≤ left := by
      push_cast at hhigh
      linarith
    have hrest : left - (0 : Nat) * period = left := by
      push_cast
      ring
    rw [hrest]
    exact .rest hless
  | succ n ih =>
    push_cast at hlow hhigh
    have hsome : 0 ≤ n * period := by positivity
    have hlow' : n * period ≤ left - period := by linarith
    have hspent := ih hlow' (by linarith)
    have hrest : left - (n + 1 : Nat) * period = left - period - n * period := by
      push_cast
      ring
    rw [hrest]
    exact .tick (by linarith) hspent

namespace Settled

variable {t : Timers Rat} {elapsed : Rat} (ht : t.Settled) (h0 : 0 ≤ elapsed)

include ht h0

lemma cast_ticksIn : (t.ticksIn elapsed : Int) = ⌊(t.carried + elapsed) / t.period⌋ := by
  have hcarried := ht.carried
  have hquotient : 0 ≤ (t.carried + elapsed) / t.period := div_nonneg (by linarith) ht.period.le
  exact Int.toNat_of_nonneg (Int.floor_nonneg.2 hquotient)

lemma ticksIn_eq_iff {n : Nat} :
    t.ticksIn elapsed = n ↔ n * t.period ≤ t.carried + elapsed ∧ t.carried + elapsed < (n + 1) * t.period := by
  have hcast := ht.cast_ticksIn h0
  have hfloor : ⌊(t.carried + elapsed) / t.period⌋ = (n : Int) ↔ _ := Int.floor_eq_iff
  rw [le_div_iff₀ ht.period, div_lt_iff₀ ht.period] at hfloor
  push_cast at hfloor
  rw [← hfloor, ← hcast]
  exact Nat.cast_inj.symm

lemma after : (t.after elapsed).Settled := by
  obtain ⟨hlow, hhigh⟩ := (ht.ticksIn_eq_iff h0).1 rfl
  refine ⟨ht.period, ?_, ?_⟩
  · simp only [Timers.after]
    linarith
  · simp only [Timers.after]
    linarith

lemma spent : Spent t.period (t.carried + elapsed) (t.ticksIn elapsed) (t.after elapsed).carried := by
  obtain ⟨hlow, hhigh⟩ := (ht.ticksIn_eq_iff h0).1 rfl
  exact spent_of_bounds ht.period hlow hhigh

lemma advance_run : t.advance elapsed = .ok (t.ticksIn elapsed, t.after elapsed) := by
  have hforward : ¬elapsed < Duration.ofNat 0 := not_lt.2 h0
  have hroom : t.ticksIn elapsed ≤ Duration.stepsWithin (t.carried + elapsed) t.period := Nat.le_succ _
  rw [advance, if_neg hforward]
  dsimp only
  rw [takePeriods_of_spent (ht.spent h0) hroom, Nat.zero_add]
  rfl

/-- Time that passes in two parts brings as many ticks as all of it at once. -/
lemma ticksIn_add {later : Rat} (hlater : 0 ≤ later) :
    t.ticksIn (elapsed + later) = t.ticksIn elapsed + (t.after elapsed).ticksIn later := by
  obtain ⟨hlow, hhigh⟩ := ((ht.after h0).ticksIn_eq_iff hlater).1 rfl
  rw [ht.ticksIn_eq_iff (add_nonneg h0 hlater)]
  simp only [Timers.after] at hlow hhigh ⊢
  push_cast
  constructor
  · linarith
  · linarith

lemma after_after {later : Rat} (hlater : 0 ≤ later) :
    (t.after elapsed).after later = t.after (elapsed + later) := by
  have hcount := ht.ticksIn_add h0 hlater
  have hcarried : ((t.after elapsed).after later).carried = (t.after (elapsed + later)).carried := by
    change t.carried + elapsed - t.ticksIn elapsed * t.period + later - (t.after elapsed).ticksIn later * t.period =
      t.carried + (elapsed + later) - t.ticksIn (elapsed + later) * t.period
    rw [hcount]
    push_cast
    ring
  exact congrArg (fun carried => { t with carried }) hcarried

omit h0 in
lemma ticksIn_zero : t.ticksIn 0 = 0 := by
  have hcarried := ht.carried
  have hless := ht.less
  rw [ht.ticksIn_eq_iff le_rfl]
  push_cast
  constructor
  · linarith
  · linarith

omit h0 in
lemma after_zero : t.after 0 = t := by
  have hcarried : t.carried + 0 - t.ticksIn 0 * t.period = t.carried := by
    rw [ht.ticksIn_zero]
    push_cast
    ring
  exact congrArg (fun carried => { t with carried }) hcarried

end Settled

end Timers

namespace Machine

lemma iterate_ticked_eq_max {timer : Machine → Int}
    (hticked : ∀ m, timer m.ticked = if timer m > 0 then timer m - 1 else timer m) {m : Machine} (h0 : 0 ≤ timer m)
    (n : Nat) : timer (ticked^[n] m) = max 0 (timer m - n) := by
  induction n generalizing m with
  | zero => simp [h0]
  | succ n ih =>
    have hnext : 0 ≤ timer m.ticked := by
      rw [hticked]
      split <;> omega
    rw [Function.iterate_succ_apply, ih hnext, hticked]
    split <;> omega

end Machine

namespace Console

def after (c : Console Rat) (elapsed : Rat) : Console Rat :=
  { c with timers := c.timers.after elapsed, machine := Machine.ticked^[c.timers.ticksIn elapsed] c.machine }

variable {c : Console Rat}

lemma update_of_settled (hc : c.timers.Settled) {elapsed : Rat} (h0 : 0 ≤ elapsed) :
    update elapsed c = .ok (c.timers.ticksIn elapsed) (c.after elapsed) := by
  rw [update_run, hc.advance_run h0]
  rfl

lemma after_zero (hc : c.timers.Settled) : c.after 0 = c := by
  rw [after, hc.ticksIn_zero, hc.after_zero]
  rfl

/-- Letting one time pass and then another is letting both pass at once. -/
lemma after_after (hc : c.timers.Settled) {elapsed later : Rat} (h0 : 0 ≤ elapsed) (hlater : 0 ≤ later) :
    (c.after elapsed).after later = c.after (elapsed + later) := by
  have htimers := hc.after_after h0 hlater
  have hcount : c.timers.ticksIn (elapsed + later) =
      (c.timers.after elapsed).ticksIn later + c.timers.ticksIn elapsed := by
    rw [hc.ticksIn_add h0 hlater, Nat.add_comm]
  simp only [after, htimers, hcount, Function.iterate_add_apply]

lemma updates_of_settled {elapsed : List Rat} (hc : c.timers.Settled) (h0 : ∀ e ∈ elapsed, 0 ≤ e) :
    ∃ ticks, elapsed.mapM update c = .ok ticks (c.after elapsed.sum) ∧ ticks.sum = c.timers.ticksIn elapsed.sum := by
  induction elapsed generalizing c with
  | nil =>
    refine ⟨[], ?_, hc.ticksIn_zero.symm⟩
    rw [List.sum_nil, after_zero hc]
    rfl
  | cons e rest ih =>
    have he : 0 ≤ e := h0 e List.mem_cons_self
    have hrest : ∀ x ∈ rest, 0 ≤ x := fun x hx => h0 x (List.mem_cons_of_mem _ hx)
    have hsum : 0 ≤ rest.sum := List.sum_nonneg hrest
    -- The timers are settled again after the first update, which is all that the others need.
    obtain ⟨ticks, hrun, hticks⟩ := ih (c := c.after e) (hc.after he) hrest
    refine ⟨c.timers.ticksIn e :: ticks, ?_, ?_⟩
    · rw [List.mapM_cons, bind_of_ok (update_of_settled hc he), bind_of_ok hrun, after_after hc he hsum, List.sum_cons]
      rfl
    · rw [List.sum_cons, List.sum_cons, hc.ticksIn_add he hsum, hticks]
      rfl

end Console

/-- Timers of a positive rate, given one time after the other, tick together as often as the whole time holds periods
and carry over what is left, as after one update. -/
theorem ticks_follow_total_time {hz carried : Rat} (hhz : 0 < hz) (h0 : 0 ≤ carried) (hless : carried < 1000 / hz)
    (c : Console Rat) (hc : c.timers = ⟨(Timers.ofRate hz).period, carried⟩) :
    (∀ elapsed : List Rat, (∀ e ∈ elapsed, 0 ≤ e) → ∃ ticks d, elapsed.mapM Console.update c = .ok ticks d ∧
      (ticks.sum : Int) = ⌊(carried + elapsed.sum) / (1000 / hz)⌋ ∧
      d.timers = ⟨1000 / hz, carried + elapsed.sum - ticks.sum * (1000 / hz)⟩ ∧
      0 ≤ d.timers.carried ∧ d.timers.carried < 1000 / hz ∧
      (0 ≤ c.machine.delay → d.machine.delay = max 0 (c.machine.delay - ticks.sum)) ∧
      (0 ≤ c.machine.sound → d.machine.sound = max 0 (c.machine.sound - ticks.sum)) ∧
      d.SameButClock c ∧
      Console.update elapsed.sum c = .ok ticks.sum d ∧
      ∀ e, 0 ≤ e → ∃ n rest next, Timers.Spent (1000 / hz) (d.timers.carried + e) n rest ∧
        Console.update e d = .ok n next ∧ next.timers.carried = rest) ∧
    ∀ e < 0, Console.update e c = .error .negativeElapsed c := by
  have hperiod : c.timers.period = 1000 / hz := by
    rw [hc]
    rfl
  have hcarried : c.timers.carried = carried := by rw [hc]
  have hsettled : c.timers.Settled := by
    refine ⟨?_, ?_, ?_⟩
    · rw [hperiod]
      positivity
    · rwa [hcarried]
    · rwa [hperiod, hcarried]
  constructor
  · intro elapsed helapsed
    have hsum : 0 ≤ elapsed.sum := List.sum_nonneg helapsed
    have hafter := hsettled.after hsum
    obtain ⟨ticks, hrun, hticks⟩ := Console.updates_of_settled hsettled helapsed
    have hfloor := hsettled.cast_ticksIn hsum
    have htimers : (c.after elapsed.sum).timers = ⟨1000 / hz, carried + elapsed.sum - ticks.sum * (1000 / hz)⟩ := by
      rw [← hperiod, ← hcarried, hticks]
      rfl
    have hsame : (c.after elapsed.sum).SameButClock c :=
      ⟨Machine.SameButTimers.iterate_ticked ⟨rfl, rfl⟩ (c.timers.ticksIn elapsed.sum) 0, rfl, rfl⟩
    have hupdate := Console.update_of_settled hsettled hsum
    rw [← hticks] at hfloor hupdate
    rw [hperiod, hcarried] at hfloor
    refine ⟨ticks, _, hrun, hfloor, htimers, hafter.carried, hperiod ▸ hafter.less, ?_, ?_, hsame, hupdate, ?_⟩
    · intro hdelay
      rw [hticks]
      exact Machine.iterate_ticked_eq_max (fun _ => rfl) hdelay _
    · intro hsound
      rw [hticks]
      exact Machine.iterate_ticked_eq_max (fun _ => rfl) hsound _
    · intro e he
      have hspent := hafter.spent he
      rw [show (c.timers.after elapsed.sum).period = 1000 / hz from hperiod] at hspent
      exact ⟨_, _, _, hspent, Console.update_of_settled (c := c.after elapsed.sum) hafter he, rfl⟩
  · intro e he
    have hback : e < Duration.ofNat 0 := he
    rw [update_run, Timers.advance, if_pos hback]

/-- One timer comes down to zero on the way and the other one goes on. -/
theorem ticks_follow_total_time_split :
    let c : Console Rat := { (Console.fresh none : Console Rat) with
      machine := { Machine.fresh with delay := 9, sound := 2 }
      timers := ⟨1000 / 60, 1⟩ }
    (∃ ticks d, [16, 0, 1 / 3, 51].mapM Console.update c = .ok ticks d ∧ ticks.sum = 4 ∧
      d.machine.delay = 5 ∧ d.machine.sound = 0 ∧ d.timers.carried = 5 / 3 ∧
      Console.update (202 / 3) c = .ok 4 d) ∧
    Console.update (-1) c = .error .negativeElapsed c := by
  intro c
  have hless : (1 : Rat) < 1000 / 60 := by norm_num
  obtain ⟨hforward, hback⟩ := ticks_follow_total_time (by norm_num) (by norm_num) hless c rfl
  have hfloor : ⌊((1 : Rat) + [16, 0, 1 / 3, 51].sum) / (1000 / 60)⌋ = 4 := by decide +kernel
  have hsum : ([16, 0, 1 / 3, 51] : List Rat).sum = 202 / 3 := by norm_num
  obtain ⟨ticks, d, hrun, hcount, htimers, -, -, hdelay, hsound, -, honce, -⟩ :=
    hforward [16, 0, 1 / 3, 51] (by decide +kernel)
  have hticks : ticks.sum = 4 := by
    rw [hfloor] at hcount
    exact_mod_cast hcount
  rw [hticks, hsum] at htimers honce
  rw [hticks] at hdelay hsound
  refine ⟨⟨ticks, d, hrun, hticks, hdelay (by decide), hsound (by decide), ?_, honce⟩, hback _ (by norm_num)⟩
  rw [htimers]
  norm_num

end Chip8
