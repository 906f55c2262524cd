import Chip8.Proofs.Coupling

/-!
# Where steps start

Some commands let the machine take a step, a frame lets it take many. `Session.starts` lists the machines that the
steps of a session start from, so that something can be asked of every one of them. Main statements: two runs of the
same commands stay related as long as the steps of the first one start from machines of some kind (`guarded_run`), and
what only steps change can be told from where they started (`tally_run`).
-/

namespace Chip8

/-- A step from this machine carries out an instruction without a fault. -/
def Machine.Completes (around : Surroundings) (m : Machine) (i : Instruction) : Prop :=
  ∃ next, Action.step around m = .ok (some i) next

/-- The instruction that a step carries out, if it does. -/
def Machine.completed? (around : Surroundings) (m : Machine) : Option Instruction :=
  match Action.step around m with
  | .ok i _ => i
  | .error _ _ => none

lemma Machine.completes_iff {around : Surroundings} {m : Machine} {i : Instruction} :
    m.Completes around i ↔ m.completed? around = some i := by
  unfold Completes completed?
  cases Action.step around m with
  | ok j next => simp
  | error e next => simp

instance {around : Surroundings} {m : Machine} {i : Instruction} : Decidable (m.Completes around i) :=
  decidable_of_iff _ Machine.completes_iff.symm

/-- A step executes the instruction that stands at the counter. -/
lemma Machine.step_of_execute {around : Surroundings} {m next : Machine} {word : Word} {i : Instruction}
    (hrun : m.awaiting = none) (hfetch : Action.fetch m = .ok word { m with counter := m.counter + 2 })
    (hdecode : Instruction.decode word = some i) (hexecute : Action.execute around i (m.fetched word) = .ok () next) :
    Action.step around m = .ok (some i) next.counted := by
  have hword : Action.executeWord around word (m.fetched word) = .ok () next := by
    rw [Action.executeWord, hdecode]
    exact hexecute
  rw [Machine.step_of_fetch hrun hfetch, bind_of_ok (Action.blaming_of_ok hword), modify_bind, hdecode]
  rfl

lemma Machine.completes_of_execute {around : Surroundings} {m next : Machine} {word : Word} {i : Instruction}
    (hrun : m.awaiting = none) (hfetch : Action.fetch m = .ok word { m with counter := m.counter + 2 })
    (hdecode : Instruction.decode word = some i) (hexecute : Action.execute around i (m.fetched word) = .ok () next) :
    m.Completes around i := ⟨_, step_of_execute hrun hfetch hdecode hexecute⟩

section States

variable {σ α β γ δ μ : Type} {S : σ → σ → Prop} {V : α → β → Prop} {W : γ → δ → Prop} {R : μ → μ → Prop}

/-- What is made of the state in which something has ended well, if it has. -/
def whenOk (result : EStateM.Result Failure σ α) (next : σ → List μ) : List μ :=
  match result with
  | .ok _ s => next s
  | .error _ _ => []

lemma mem_whenOk {act : EStateM Failure σ α} {a : α} {s t : σ} {next : σ → List μ} {x : μ} (hrun : act s = .ok a t)
    (hx : x ∈ next t) : x ∈ whenOk (act s) next := by
  rw [hrun]
  exact hx

section Adding

variable {T : σ → List μ → σ → Prop} {act : EStateM Failure σ α} {s : σ} {list : List μ}

/-- What an action adds to a list, followed by what the rest adds if it comes to that. -/
lemma added_bind (htrans : ∀ {s t u : σ} {xs ys : List μ}, T s xs t → T t ys u → T s (xs ++ ys) u)
    {rest : α → EStateM Failure σ β} {later : σ → List μ} (hact : T s list (ending (act s)))
    (hrest : ∀ a t, T s list t → T t (later t) (ending (rest a t))) :
    T s (list ++ whenOk (act s) later) (ending ((act >>= rest) s)) := by
  cases hrun : act s with
  | error e t =>
    rw [hrun] at hact
    rw [bind_of_error hrun, whenOk, List.append_nil]
    exact hact
  | ok a t =>
    rw [hrun] at hact
    rw [bind_of_ok hrun]
    exact htrans hact (hrest a t hact)

/-- The rest adds nothing. -/
lemma added_map {rest : α → EStateM Failure σ β} (hact : T s list (ending (act s)))
    (hrest : ∀ a t, T s list t → T s list (ending (rest a t))) : T s list (ending ((act >>= rest) s)) := by
  cases hrun : act s with
  | error e t =>
    rw [hrun] at hact
    rw [bind_of_error hrun]
    exact hact
  | ok a t =>
    rw [hrun] at hact
    rw [bind_of_ok hrun]
    exact hrest a t hact

end Adding

/-- Two actions and what is listed after their first parts. -/
lemma alike_whenOk {act : EStateM Failure σ α} {act' : EStateM Failure σ β} {next : α → EStateM Failure σ γ}
    {next' : β → EStateM Failure σ δ} {list list' : σ → List μ} {s s' : σ} (hact : Alike S V (act s) (act' s'))
    (hnext : ∀ a b t t', act s = .ok a t → V a b → S t t' →
      Alike S W (next a t) (next' b t') ∧ List.Forall₂ R (list t) (list' t')) :
    Alike S W ((act >>= next) s) ((act' >>= next') s') ∧
      List.Forall₂ R (whenOk (act s) list) (whenOk (act' s') list') := by
  refine ⟨alike_bind hact fun a b t t' hrun _ hvalue hstate => (hnext a b t t' hrun hvalue hstate).1, ?_⟩
  generalize hrun : act s = result at hact
  generalize act' s' = result' at hact
  cases hact with
  | ok hvalue hstate => exact (hnext _ _ _ _ hrun hvalue hstate).2
  | error e hstate => exact .nil

/-- The same state, with a property. -/
def Only (P : σ → Prop) (s s' : σ) : Prop := P s ∧ s = s'

lemma alike_self {P : σ → Prop} {result : EStateM.Result Failure σ α} (hafter : P (ending result)) :
    Alike (Only P) Eq result result := by
  cases result with
  | ok a s => exact .ok rfl ⟨hafter, rfl⟩
  | error e s => exact .error e ⟨hafter, rfl⟩

/-- A property that is kept is a relation of each state with itself. -/
lemma coupled_of_keeps {P : σ → Prop} {act : EStateM Failure σ α} (hkeeps : Keeps P act) :
    Coupled (Only P) Eq act act := by
  rintro s _ ⟨hs, rfl⟩
  exact alike_self (hkeeps s hs)

end States

section Commands

variable {τ : Type}

def Command.takesSteps : Command τ → Bool
  | .step _ | .stepMachine | .frame _ _ => true
  | _ => false

/-- Whether a command lets the machine run, moves keys, or lets time pass. -/
def Command.plays (command : Command τ) : Bool := command.takesSteps || command.isAside

lemma plays_cases {command : Command τ} (hplays : command.plays) :
    command.takesSteps ∨ command.takesSteps = false ∧ command.isAside := by
  unfold Command.plays at hplays
  cases htakes : command.takesSteps with
  | true => exact .inl rfl
  | false =>
    rw [htakes, Bool.false_or] at hplays
    exact .inr ⟨rfl, hplays⟩

end Commands

section Consoles

variable {τ : Type} [Duration τ]

/-- What steps, keys and time keep is kept by all commands that play. -/
lemma keeps_plays {P : Machine → Prop} {around : Surroundings} (haside : KeptAside P)
    (hstep : Keeps P (Action.step around)) {command : Command τ} (hplays : command.plays) :
    Keeps (fun c : Console τ => P c.machine) (Session.perform around command) := by
  obtain htakes | ⟨-, hstill⟩ := plays_cases hplays
  · cases command with
    | step elapsed => exact keeps_bind (keeps_step haside.ticked hstep elapsed) fun _ => keeps_pure _
    | stepMachine => exact keeps_bind (keeps_onMachine hstep) fun _ => keeps_pure _
    | frame elapsed instructions =>
      exact keeps_bind (keeps_frame haside.ticked hstep _ _) fun _ => keeps_bind keeps_get fun _ => keeps_pure _
    | _ => cases htakes
  · exact haside.perform around hstill

namespace Console

/-- The machine that a step starts from once the clock is advanced. -/
def start (elapsed : τ) (c : Console τ) : List Machine :=
  whenOk (update elapsed c) fun c => [c.machine]

/-- The machines that a number of steps in a row start from, until one of them fails. -/
def starts (around : Surroundings) : Nat → Console τ → List Machine
  | 0, _ => []
  | n + 1, c => start (Duration.ofNat 0) c ++ whenOk (step around (Duration.ofNat 0) c) (starts around n)

lemma times_step_succ (around : Surroundings) (elapsed : τ) (n : Nat) :
    times (do let _ ← step around elapsed) (n + 1) =
      step around elapsed >>= fun _ => times (do let _ ← step around elapsed) n := by
  rw [times, bind_assoc]
  rfl

end Console

namespace Session

def startsOf (around : Surroundings) : Command τ → Console τ → List Machine
  | .step elapsed, c => c.start elapsed
  | .stepMachine, c => [c.machine]
  | .frame elapsed instructions, c =>
    whenOk (Console.update (elapsed.getD Console.frameLength) c)
      (Console.starts around (instructions.getD Console.instructionsPerFrame).toNat)
  | _, _ => []

/-- The machines that the steps of a session start from, one after the other. -/
def starts (around : Surroundings) : List (Command τ) → Console τ → List Machine
  | [], _ => []
  | command :: rest, c => startsOf around command c ++ starts around rest (answer around command c).2

end Session

lemma startsOf_eq_nil {around : Surroundings} {command : Command τ} (hstill : command.takesSteps = false)
    (c : Console τ) : Session.startsOf around command c = [] := by
  cases command with
  | step | stepMachine | frame => cases hstill
  | _ => rfl

/-- Consoles stay related through every step that starts from a machine of some kind. -/
structure Guarded (S : Console τ → Console τ → Prop) (R : Machine → Machine → Prop) (Q : Machine → Prop)
    (around around' : Surroundings) : Prop extends Over S R where
  step {m m' : Machine} : R m m' → Q m → Alike R Eq (Action.step around m) (Action.step around' m')
  screen {m m' : Machine} : R m m' → m.screen = m'.screen
  idle : Coupled S (fun _ _ => True) (Console.update (Duration.ofNat 0)) (Console.update (Duration.ofNat 0))
  counted {c c' : Console τ} : S c c' → S { c with frames := c.frames + 1 } { c' with frames := c'.frames + 1 }

/-- Commands that let two machines take equally many steps, after times that the relation does not tell apart. -/
inductive Paced (S : Console τ → Console τ → Prop) : Command τ → Command τ → Prop
  | step {elapsed elapsed' : τ}
    (h : Coupled S (fun _ _ => True) (Console.update elapsed) (Console.update elapsed')) :
    Paced S (.step elapsed) (.step elapsed')
  | stepMachine : Paced S .stepMachine .stepMachine
  | frame {elapsed elapsed' : Option τ} (instructions : Option Int)
    (h : Coupled S (fun _ _ => True) (Console.update (elapsed.getD Console.frameLength))
      (Console.update (elapsed'.getD Console.frameLength))) :
    Paced S (.frame elapsed instructions) (.frame elapsed' instructions)

variable {S : Console τ → Console τ → Prop} {R : Machine → Machine → Prop} {Q : Machine → Prop}
  {around around' : Surroundings} {c c' : Console τ}

/-- Any command that takes steps is paced with itself if the clock can be advanced alike. -/
lemma paced_self
    (hupdate : ∀ elapsed : τ, Coupled S (fun _ _ => True) (Console.update elapsed) (Console.update elapsed))
    {command : Command τ} (htakes : command.takesSteps) : Paced S command command := by
  cases command with
  | step elapsed => exact .step (hupdate _)
  | stepMachine => exact .stepMachine
  | frame elapsed instructions => exact .frame _ (hupdate _)
  | _ => cases htakes

namespace Guarded

variable (h : Guarded S R Q around around')

include h

lemma step_at {elapsed elapsed' : τ} (hc : S c c')
    (hupdate : Coupled S (fun _ _ => True) (Console.update elapsed) (Console.update elapsed'))
    (hguard : ∀ m ∈ c.start elapsed, Q m) :
    Alike S Eq (Console.step around elapsed c) (Console.step around' elapsed' c') ∧
      List.Forall₂ R (c.start elapsed) (c'.start elapsed') := by
  apply alike_whenOk (hupdate c c' hc)
  intro _ _ d d' hrun _ hd
  have hstart : d.machine ∈ c.start elapsed := mem_whenOk hrun (List.mem_singleton_self _)
  exact ⟨h.onMachine_at hd (h.step (h.machine hd) (hguard _ hstart)), .cons (h.machine hd) .nil⟩

/-- By induction on the number of steps. -/
lemma steps_at (n : Nat) (hc : S c c') (hguard : ∀ m ∈ c.starts around n, Q m) :
    Alike S Eq (Console.times (do let _ ← Console.step around (Duration.ofNat 0 : τ)) n c)
        (Console.times (do let _ ← Console.step around' (Duration.ofNat 0 : τ)) n c') ∧
      List.Forall₂ R (c.starts around n) (c'.starts around' n) := by
  induction n generalizing c c' with
  | zero => exact ⟨.ok rfl hc, .nil⟩
  | succ n ih =>
    rw [Console.starts] at hguard
    have hfirst := h.step_at hc h.idle fun m hm => hguard m (List.mem_append_left _ hm)
    rw [Console.times_step_succ, Console.times_step_succ, Console.starts, Console.starts]
    have hnext (result : Option Instruction) (d d' : Console τ)
        (hrun : Console.step around (Duration.ofNat 0) c = .ok result d) (hd : S d d') :=
      ih hd fun m hm => hguard m (List.mem_append_right _ (mem_whenOk hrun hm))
    have hrest := alike_whenOk hfirst.1 fun result _ d d' hrun _ hd => hnext result d d' hrun hd
    exact ⟨hrest.1, List.rel_append hfirst.2 hrest.2⟩

lemma frame_at {elapsed elapsed' : τ} (instructions : Int) (hc : S c c')
    (hupdate : Coupled S (fun _ _ => True) (Console.update elapsed) (Console.update elapsed'))
    (hguard : ∀ m ∈ whenOk (Console.update elapsed c) (Console.starts around instructions.toNat), Q m) :
    Alike S (fun _ _ => True) (Console.frame around elapsed instructions c)
        (Console.frame around' elapsed' instructions c') ∧
      List.Forall₂ R (whenOk (Console.update elapsed c) (Console.starts around instructions.toNat))
        (whenOk (Console.update elapsed' c') (Console.starts around' instructions.toNat)) := by
  apply alike_whenOk (hupdate c c' hc)
  intro _ _ d d' hrun _ hd
  have hsteps := h.steps_at instructions.toNat hd fun m hm => hguard m (mem_whenOk hrun hm)
  refine ⟨alike_bind hsteps.1 fun _ _ e e' _ _ _ he => ?_, hsteps.2⟩
  exact coupled_bind (coupled_modify fun _ _ => h.counted) (fun _ _ _ => coupled_pure trivial) e e' he

lemma perform_at {command command' : Command τ} (hpaced : Paced S command command') (hc : S c c')
    (hguard : ∀ m ∈ Session.startsOf around command c, Q m) :
    Alike S Eq (Session.perform around command c) (Session.perform around' command' c') ∧
      List.Forall₂ R (Session.startsOf around command c) (Session.startsOf around' command' c') := by
  cases hpaced with
  | step hupdate =>
    have hstep := h.step_at hc hupdate hguard
    refine ⟨alike_bind hstep.1 fun result _ d d' _ _ hsame hd => ?_, hstep.2⟩
    rw [hsame]
    exact .ok rfl hd
  | stepMachine =>
    have hstep := h.step (h.machine hc) (hguard _ (List.mem_singleton_self _))
    refine ⟨alike_bind (h.onMachine_at hc hstep) fun result _ d d' _ _ hsame hd => ?_, .cons (h.machine hc) .nil⟩
    rw [hsame]
    exact .ok rfl hd
  | frame instructions hupdate =>
    have hframe := h.frame_at _ hc hupdate hguard
    refine ⟨alike_bind hframe.1 fun _ _ d d' _ _ _ hd => .ok ?_ hd, hframe.2⟩
    rw [h.screen (h.machine hd)]

end Guarded

lemma startsOf_mem_starts {command : Command τ} {rest : List (Command τ)} {m : Machine}
    (hm : m ∈ Session.startsOf around command c) : m ∈ Session.starts around (command :: rest) c :=
  List.mem_append_left _ hm

lemma starts_mem_starts {command : Command τ} {rest : List (Command τ)} {m : Machine}
    (hm : m ∈ Session.starts around rest (Session.answer around command c).2) :
    m ∈ Session.starts around (command :: rest) c :=
  List.mem_append_right _ hm

/-- Two runs of the same commands have the same outcomes, and their steps start from related machines, if those of the
first run pass the guard. -/
theorem guarded_run (h : Guarded S R Q around around') {commands : List (Command τ)}
    (hcommands : ∀ command ∈ commands, Paced S command command ∨
      command.takesSteps = false ∧ Coupled S Eq (Session.perform around command) (Session.perform around' command))
    (hc : S c c') (hguard : ∀ m ∈ Session.starts around commands c, Q m) :
    (Session.run around commands c).1 = (Session.run around' commands c').1 ∧
      S (Session.run around commands c).2 (Session.run around' commands c').2 ∧
      List.Forall₂ R (Session.starts around commands c) (Session.starts around' commands c') := by
  induction commands generalizing c c' with
  | nil => exact ⟨rfl, hc, .nil⟩
  | cons command rest ih =>
    have hfirst : Alike S Eq (Session.perform around command c) (Session.perform around' command c') ∧
        List.Forall₂ R (Session.startsOf around command c) (Session.startsOf around' command c') := by
      rcases hcommands command List.mem_cons_self with hpaced | ⟨hstill, hcoupled⟩
      · exact h.perform_at hpaced hc fun m hm => hguard m (startsOf_mem_starts hm)
      · rw [startsOf_eq_nil hstill, startsOf_eq_nil hstill]
        exact ⟨hcoupled c c' hc, .nil⟩
    have hanswer := answer_alike (W := Eq) (fun _ _ => congrArg _) (fun _ => rfl) hfirst.1
    have hrest := ih (fun x hx => hcommands x (List.mem_cons_of_mem _ hx)) hanswer.2
      fun m hm => hguard m (starts_mem_starts hm)
    rw [run_cons, run_cons, hanswer.1, hrest.1]
    exact ⟨rfl, hrest.2.1, List.rel_append hfirst.2 hrest.2.2⟩

/-- A property that keys, time and every guarded step keep holds wherever a step starts. -/
theorem guarded_starts {P : Machine → Prop} (hticked : ∀ m, P m → P m.ticked)
    (hstep : ∀ m, P m → Q m → P (ending (Action.step around m))) {commands : List (Command τ)}
    (hcommands : ∀ command ∈ commands, command.takesSteps ∨
      command.takesSteps = false ∧ Keeps (fun c : Console τ => P c.machine) (Session.perform around command))
    (hc : P c.machine) (hguard : ∀ m ∈ Session.starts around commands c, Q m) :
    ∀ m ∈ Session.starts around commands c, P m := by
  have hupdate (elapsed : τ) : Coupled (Only fun c : Console τ => P c.machine) (fun _ _ => True)
      (Console.update elapsed) (Console.update elapsed) :=
    fun c c' h => (coupled_of_keeps (keeps_update hticked elapsed) c c' h).imp fun _ _ _ => trivial
  have hguarded : Guarded (Only fun c : Console τ => P c.machine) (Only P) Q around around :=
    { machine := fun h => ⟨h.1, congrArg Console.machine h.2⟩
      replace := fun h hm => ⟨hm.1, by rw [h.2, hm.2]⟩
      step := by
        rintro m _ ⟨hm, rfl⟩ hQ
        exact alike_self (hstep m hm hQ)
      screen := fun h => by rw [h.2]
      idle := hupdate _
      counted := fun h => ⟨h.1, by rw [h.2]⟩ }
  have hpaced (command : Command τ) (hmem : command ∈ commands) :=
    (hcommands command hmem).imp (paced_self hupdate) (And.imp_right coupled_of_keeps)
  exact ((List.forall₂_and_left _ _).1 (guarded_run hguarded hpaced ⟨hc, rfl⟩ hguard).2.2).1

end Consoles

section Tallies

variable {τ A : Type}

/-- Something about a machine that no tick changes, and a step by a rule. -/
structure Tally (P : Machine → Prop) (f : Machine → A) (next : A → Machine → A) (around : Surroundings) : Prop where
  ticked : ∀ m, P m → P m.ticked ∧ f m.ticked = f m
  stepped : ∀ m, P m → P (ending (Action.step around m)) ∧ f (ending (Action.step around m)) = next (f m) m

variable {P : Machine → Prop} {f : Machine → A} {next : A → Machine → A} {around : Surroundings} {c : Console τ}
  {α β : Type}

namespace Tally

/-- A console has gone on to another one, and steps started from some machines in between. -/
def Counts (P : Machine → Prop) (f : Machine → A) (next : A → Machine → A) (c d : Console τ) (starts : List Machine) :
    Prop :=
  P d.machine ∧ f d.machine = starts.foldl next (f c.machine)

lemma Counts.trans {c d e : Console τ} {starts later : List Machine} (h : Counts P f next c d starts)
    (hlater : Counts P f next d e later) : Counts P f next c e (starts ++ later) := by
  refine ⟨hlater.1, ?_⟩
  rw [List.foldl_append, ← h.2]
  exact hlater.2

lemma Counts.bind {act : Console.Action τ α} {rest : α → Console.Action τ β} {starts : List Machine}
    {later : Console τ → List Machine} (hact : Counts P f next c (ending (act c)) starts)
    (hrest : ∀ a d, P d.machine → Counts P f next d (ending (rest a d)) (later d)) :
    Counts P f next c (ending ((act >>= rest) c)) (starts ++ whenOk (act c) later) :=
  added_bind (T := fun c starts d => Counts P f next c d starts) Counts.trans hact fun a d hd => hrest a d hd.1

lemma Counts.map {act : Console.Action τ α} {rest : α → Console.Action τ β} {starts : List Machine}
    (hact : Counts P f next c (ending (act c)) starts)
    (hrest : ∀ a d, (ending (rest a d)).machine = d.machine) :
    Counts P f next c (ending ((act >>= rest) c)) starts := by
  refine added_map (T := fun c starts d => Counts P f next c d starts) hact fun a d hd => ?_
  rw [Counts, hrest]
  exact hd

lemma onMachine (h : Tally P f next around) (hc : P c.machine) :
    Counts P f next c (ending (Console.onMachine (Action.step around) c)) [c.machine] := by
  rw [Counts, ending_onMachine]
  exact h.stepped c.machine hc

variable [Duration τ] (h : Tally P f next around)

include h

lemma update (elapsed : τ) (hc : P c.machine) : Counts P f next c (ending (Console.update elapsed c)) [] := by
  have hticked (m : Machine) (hm : P m ∧ f m = f c.machine) : P m.ticked ∧ f m.ticked = f c.machine := by
    rw [(h.ticked m hm.1).2]
    exact ⟨(h.ticked m hm.1).1, hm.2⟩
  exact keeps_update hticked elapsed c ⟨hc, rfl⟩

lemma step (elapsed : τ) (hc : P c.machine) :
    Counts P f next c (ending (Console.step around elapsed c)) (c.start elapsed) :=
  (h.update elapsed hc).bind fun _ _ hd => h.onMachine hd

lemma steps (n : Nat) (hc : P c.machine) :
    Counts P f next c (ending (Console.times (do let _ ← Console.step around (Duration.ofNat 0 : τ)) n c))
      (c.starts around n) := by
  induction n generalizing c with
  | zero => exact ⟨hc, rfl⟩
  | succ n ih =>
    rw [Console.times_step_succ]
    exact (h.step (Duration.ofNat 0) hc).bind fun _ _ hd => ih hd

lemma frame (elapsed : τ) (instructions : Int) (hc : P c.machine) :
    Counts P f next c (ending (Console.frame around elapsed instructions c))
      (whenOk (Console.update elapsed c) (Console.starts around instructions.toNat)) :=
  (h.update elapsed hc).bind fun _ _ hd => (h.steps instructions.toNat hd).map fun _ _ => rfl

lemma perform {command : Command τ} (htakes : command.takesSteps) (hc : P c.machine) :
    Counts P f next c (ending (Session.perform around command c)) (Session.startsOf around command c) := by
  cases command with
  | step elapsed => exact (h.step elapsed hc).map fun _ _ => rfl
  | stepMachine => exact (h.onMachine hc).map fun _ _ => rfl
  | frame elapsed instructions => exact (h.frame _ _ hc).map fun _ _ => rfl
  | _ => cases htakes

end Tally

/-- The tally after a session is the one before, taken over all steps. -/
theorem tally_run [Duration τ] (h : Tally P f next around) {commands : List (Command τ)}
    (hcommands : ∀ command ∈ commands, command.takesSteps ∨ command.takesSteps = false ∧ ∀ a,
      Keeps (fun c : Console τ => P c.machine ∧ f c.machine = a) (Session.perform around command))
    (hc : P c.machine) :
    Tally.Counts P f next c (Session.run around commands c).2 (Session.starts around commands c) := by
  induction commands generalizing c with
  | nil => exact ⟨hc, rfl⟩
  | cons command rest ih =>
    have hfirst : Tally.Counts P f next c (Session.answer around command c).2 (Session.startsOf around command c) := by
      rw [answer_eq_ending]
      rcases hcommands command List.mem_cons_self with htakes | ⟨hstill, hkeeps⟩
      · exact h.perform htakes hc
      · rw [startsOf_eq_nil hstill]
        exact hkeeps _ c ⟨hc, rfl⟩
    exact hfirst.trans (ih (fun x hx => hcommands x (List.mem_cons_of_mem _ hx)) hfirst.1)

end Tallies

end Chip8
