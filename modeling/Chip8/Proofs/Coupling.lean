import Chip8.Proofs.Keeping

/-!
# Two runs side by side

Two actions are coupled if from related states they end alike: with the same failure, or with related values, and
in related states again. Most actions see only the core of a machine, which leaves out its timers, its position
among the random bytes and its trace, so a relation that keeps cores equal couples them. Main statement:
`coupled_run`, for whole sessions.
-/

namespace Chip8

section States

variable {σ α β γ δ : Type} {R : σ → σ → Prop} {V : α → β → Prop} {W : γ → δ → Prop}

inductive Alike (R : σ → σ → Prop) (V : α → β → Prop) :
    EStateM.Result Failure σ α → EStateM.Result Failure σ β → Prop
  | ok {a : α} {b : β} {s s' : σ} (hvalue : V a b) (hstate : R s s') : Alike R V (.ok a s) (.ok b s')
  | error {s s' : σ} (e : Failure) (hstate : R s s') : Alike R V (.error e s) (.error e s')

/-- From related states two actions end alike. -/
def Coupled (R : σ → σ → Prop) (V : α → β → Prop) (act : EStateM Failure σ α) (act' : EStateM Failure σ β) : Prop :=
  ∀ s s', R s s' → Alike R V (act s) (act' s')

lemma coupled_pure {a : α} {b : β} (h : V a b) : Coupled R V (pure a) (pure b) := fun _ _ hs => .ok h hs

lemma coupled_throw (e : Failure) : Coupled R V (throw e) (throw e) := fun _ _ hs => .error e hs

lemma coupled_get : Coupled R R get get := fun _ _ hs => .ok hs hs

lemma coupled_modify {f g : σ → σ} (h : ∀ s s', R s s' → R (f s) (g s')) :
    Coupled R Eq (modify f : EStateM Failure σ PUnit) (modify g : EStateM Failure σ PUnit) :=
  fun s s' hs => .ok rfl (h s s' hs)

lemma Alike.imp {V' : α → β → Prop} (h : ∀ a b, V a b → V' a b) {result : EStateM.Result Failure σ α}
    {result' : EStateM.Result Failure σ β} (halike : Alike R V result result') : Alike R V' result result' := by
  cases halike with
  | ok hvalue hstate => exact .ok (h _ _ hvalue) hstate
  | error e hstate => exact .error e hstate

lemma alike_bind {act : EStateM Failure σ α} {act' : EStateM Failure σ β} {next : α → EStateM Failure σ γ}
    {next' : β → EStateM Failure σ δ} {s s' : σ} (hact : Alike R V (act s) (act' s'))
    (hnext : ∀ a b t t', act s = .ok a t → act' s' = .ok b t' → V a b → R t t' → Alike R W (next a t) (next' b t')) :
    Alike R W ((act >>= next) s) ((act' >>= next') s') := by
  generalize hrun : act s = result at hact
  generalize hrun' : act' s' = result' at hact
  cases hact with
  | ok hvalue hstate =>
    rw [bind_of_ok hrun, bind_of_ok hrun']
    exact hnext _ _ _ _ hrun hrun' hvalue hstate
  | error e hstate =>
    rw [bind_of_error hrun, bind_of_error hrun']
    exact .error e hstate

lemma coupled_bind {act : EStateM Failure σ α} {act' : EStateM Failure σ β} {next : α → EStateM Failure σ γ}
    {next' : β → EStateM Failure σ δ} (hact : Coupled R V act act')
    (hnext : ∀ a b, V a b → Coupled R W (next a) (next' b)) : Coupled R W (act >>= next) (act' >>= next') :=
  fun s s' hs => alike_bind (hact s s' hs) fun _ _ t t' _ _ hvalue hstate => hnext _ _ hvalue t t' hstate

lemma coupled_forM (l : List α) {act act' : α → EStateM Failure σ PUnit} (h : ∀ a, Coupled R Eq (act a) (act' a)) :
    Coupled R Eq (l.forM act) (l.forM act') := by
  induction l with
  | nil => exact coupled_pure rfl
  | cons a l ih => exact coupled_bind (h a) fun _ _ _ => ih

end States

namespace Machine

/-- What is left of a machine without its timers, its position among the random bytes and its trace. -/
def core (m : Machine) : Machine :=
  { m with delay := 0, sound := 0, drawn := 0, tracing := false, reports := [] }

/-- A core under the timers, the position and the trace of another machine. -/
def adopt (m core : Machine) : Machine :=
  { core with delay := m.delay, sound := m.sound, drawn := m.drawn, tracing := m.tracing, reports := m.reports }

end Machine

namespace Action

variable {α β : Type} {around : Surroundings}

def graft (m : Machine) : EStateM.Result Failure Machine α → EStateM.Result Failure Machine α
  | .ok a core => .ok a (m.adopt core)
  | .error e core => .error e (m.adopt core)

/-- An action that reads and changes nothing but the core. -/
def OnCore (act : Action α) : Prop :=
  ∀ m, act m = graft m (act m.core)

lemma onCore_pure (a : α) : OnCore (pure a) := fun _ => rfl

lemma onCore_throw (e : Failure) : OnCore (throw e : Action α) := fun _ => rfl

lemma onCore_modify {f : Machine → Machine} (h : ∀ m, f m = m.adopt (f m.core)) : OnCore (modify f) := by
  intro m
  change EStateM.Result.ok () (f m) = .ok () (m.adopt (f m.core))
  rw [← h]

lemma graft_graft (m k : Machine) (result : EStateM.Result Failure Machine α) :
    graft m (graft k result) = graft m result := by
  cases result <;> rfl

lemma graft_adopt (m k : Machine) (result : EStateM.Result Failure Machine α) :
    graft (m.adopt k) result = graft m result := by
  cases result <;> rfl

lemma onCore_bind {act : Action α} {next : α → Action β} (hact : OnCore act) (hnext : ∀ a, OnCore (next a)) :
    OnCore (act >>= next) := by
  intro m
  have hfirst := hact m
  cases hrun : act m.core with
  | ok a k =>
    -- the rest runs on the core that the first part left, under what that part took from the machine
    rw [hrun] at hfirst
    rw [bind_of_ok hfirst, bind_of_ok hrun, hnext a (m.adopt k), hnext a k, graft_graft, graft_adopt]
    rfl
  | error e k =>
    rw [hrun] at hfirst
    rw [bind_of_error hfirst, bind_of_error hrun]
    rfl

lemma onCore_get {next : Machine → Action α} (hsame : ∀ m, next m = next m.core) (hnext : ∀ m, OnCore (next m)) :
    OnCore (get >>= next) := by
  intro m
  rw [get_bind, get_bind, hnext m m, hsame m]

lemma onCore_forM {ι : Type} (l : List ι) {act : ι → Action PUnit} (h : ∀ i, OnCore (act i)) :
    OnCore (l.forM act) := by
  induction l with
  | nil => exact onCore_pure _
  | cons i l ih => exact onCore_bind (h i) fun _ => ih

lemma onCore_fault (cause : FaultCause) : OnCore (fault cause : Action α) := fun _ => rfl

lemma onCore_slot (n : Nat) (i : Int) : OnCore (slot n i) := by
  unfold slot
  cases slot? n i with
  | none => exact onCore_throw _
  | some k => exact onCore_pure k

lemma onCore_register (x : Register) : OnCore (register x) := fun _ => rfl

lemma onCore_setRegister (x : Register) (value : Int) : OnCore (setRegister x value) := fun _ => rfl

lemma onCore_store (address value : Int) : OnCore (store address value) := by
  apply onCore_bind (onCore_slot _ _)
  intro cell
  split
  · exact onCore_modify fun _ => rfl
  · exact onCore_throw _

lemma onCore_load (address : Int) : OnCore (load address) :=
  onCore_bind (onCore_slot _ _) fun _ => fun _ => rfl

lemma onCore_checkRange (start length : Int) : OnCore (checkRange start length) := by
  unfold checkRange
  split
  · exact onCore_fault _
  · exact onCore_pure _

lemma onCore_fetch : OnCore fetch := by
  apply onCore_get (fun _ => rfl)
  intro m
  dsimp only
  split
  · exact onCore_fault _
  · apply onCore_bind (onCore_slot _ _)
    intro high
    apply onCore_bind (onCore_slot _ _)
    intro low
    exact onCore_bind (onCore_modify fun _ => rfl) fun _ => fun _ => rfl

lemma onCore_pushReturn (address : Int) : OnCore (pushReturn address) := by
  apply onCore_get (fun _ => rfl)
  intro m
  split
  · exact onCore_fault _
  · apply onCore_get (fun _ => rfl)
    intro m
    apply onCore_bind (onCore_slot _ _)
    intro top
    exact onCore_modify fun _ => rfl

lemma onCore_popReturn : OnCore popReturn := by
  apply onCore_get (fun _ => rfl)
  intro m
  split
  · exact onCore_fault _
  · apply onCore_bind (onCore_modify fun _ => rfl)
    intro _
    apply onCore_get (fun _ => rfl)
    intro m
    exact onCore_bind (onCore_slot _ _) fun top => fun _ => rfl

lemma onCore_jump (target : Int) : OnCore (jump target) := by
  unfold jump
  split
  · exact onCore_modify fun _ => rfl
  · exact onCore_fault _

lemma onCore_skip : OnCore skip := by
  apply onCore_get (fun _ => rfl)
  intro m
  split
  · exact onCore_fault _
  · exact onCore_modify fun _ => rfl

lemma onCore_draw (order : BitOrder) (x y : Int) (rows : List Int) : OnCore (draw order x y rows) := fun _ => rfl

lemma onCore_installProgram (program : List UInt8) : OnCore (installProgram program) := by
  unfold installProgram
  split
  · exact onCore_throw _
  · exact onCore_modify fun _ => rfl

lemma onCore_releaseKey (code : Int) : OnCore (releaseKey code) :=
  onCore_bind (onCore_slot _ _) fun _ => onCore_modify fun _ => rfl

lemma onCore_pollKey : OnCore pollKey := fun _ => rfl

lemma onCore_holds (condition : Condition) : OnCore (holds condition) := by
  cases condition <;> exact fun _ => rfl

lemma onCore_combine (how : Combination) (x y : Register) : OnCore (combine around how x y) := by
  cases how <;> exact fun _ => rfl

lemma onCore_drawSprite (x y : Register) (height : Fin 16) : OnCore (drawSprite around x y height) := by
  apply onCore_get (fun _ => rfl)
  intro m
  apply onCore_bind (onCore_checkRange _ _)
  intro _
  apply onCore_get (fun _ => rfl)
  intro m
  apply onCore_bind (onCore_register x)
  intro _
  apply onCore_bind (onCore_register y)
  intro _
  apply onCore_bind (onCore_draw _ _ _ _)
  intro hit
  exact onCore_setRegister _ _

lemma onCore_storeDigits (x : Register) : OnCore (storeDigits x) := by
  apply onCore_get (fun _ => rfl)
  intro m
  apply onCore_bind (onCore_checkRange _ _)
  intro _
  apply onCore_bind (onCore_register x)
  intro value
  apply onCore_bind (onCore_store _ _)
  intro _
  exact onCore_bind (onCore_store _ _) fun _ => onCore_store _ _

lemma onCore_storeRegisters (last : Register) : OnCore (storeRegisters last) := by
  apply onCore_get (fun _ => rfl)
  intro m
  apply onCore_bind (onCore_checkRange _ _)
  intro _
  exact onCore_forM _ fun i => onCore_bind (onCore_register i) fun _ => onCore_store _ _

lemma onCore_loadRegisters (last : Register) : OnCore (loadRegisters last) := by
  apply onCore_get (fun _ => rfl)
  intro m
  apply onCore_bind (onCore_checkRange _ _)
  intro _
  exact onCore_forM _ fun i => onCore_bind (onCore_load _) fun _ => onCore_setRegister _ _

end Action

lemma alike_blaming {R : Machine → Machine → Prop} {act act' : Action Unit} {m m' : Machine}
    (hact : Alike R Eq (act m) (act' m')) (address : Int) (word : Word) :
    Alike R Eq (Action.blaming address word act m) (Action.blaming address word act' m') := by
  unfold Action.blaming
  generalize act m = result at hact
  generalize act' m' = result' at hact
  cases hact with
  | ok hvalue hstate => exact .ok hvalue hstate
  | error e hstate =>
    cases e with
    | fault f => exact .error _ hstate
    | _ => exact .error _ hstate

/-- A relation of machines with equal cores that goes on when both are changed in the same way, also between runs with
different random bytes as long as the same one is taken next. -/
structure Carries (R : Machine → Machine → Prop) (around around' : Surroundings) : Prop where
  core {m m'} : R m m' → m.core = m'.core
  random {m m'} : R m m' → around.random m.drawn = around'.random m'.drawn
  adopt {m m'} : R m m' → ∀ k, R (m.adopt k) (m'.adopt k)
  setDelay {m m'} : R m m' → ∀ value, R { m with delay := value } { m' with delay := value }
  setSound {m m'} : R m m' → ∀ value, R { m with sound := value } { m' with sound := value }
  advance {m m'} : R m m' → R { m with drawn := m.drawn + 1 } { m' with drawn := m'.drawn + 1 }
  setTracing {m m'} : R m m' → ∀ value, R { m with tracing := value } { m' with tracing := value }
  reported {m m'} : R m m' → ∀ r, R (m.reported r) (m'.reported r)

/-- A relation that is carried through ticks too, of machines with the same delay under the same dialect. -/
structure Attuned (R : Machine → Machine → Prop) (around around' : Surroundings) : Prop
    extends Carries R around around' where
  dialect : around.dialect = around'.dialect
  delay {m m'} : R m m' → m.delay = m'.delay
  tick : Coupled R Eq Action.tick Action.tick

/-- A relation of machines with equal cores and timers that goes on when both are changed in the same way, also
between runs with different random bytes as long as the same one is taken next. -/
structure Couples (R : Machine → Machine → Prop) (around around' : Surroundings) : Prop where
  dialect : around.dialect = around'.dialect
  core {m m'} : R m m' → m.core = m'.core
  delay {m m'} : R m m' → m.delay = m'.delay
  sound {m m'} : R m m' → m.sound = m'.sound
  random {m m'} : R m m' → around.random m.drawn = around'.random m'.drawn
  adopt {m m'} : R m m' → ∀ k, R (m.adopt k) (m'.adopt k)
  setDelay {m m'} : R m m' → ∀ value, R { m with delay := value } { m' with delay := value }
  setSound {m m'} : R m m' → ∀ value, R { m with sound := value } { m' with sound := value }
  advance {m m'} : R m m' → R { m with drawn := m.drawn + 1 } { m' with drawn := m'.drawn + 1 }
  setTracing {m m'} : R m m' → ∀ value, R { m with tracing := value } { m' with tracing := value }
  reported {m m'} : R m m' → ∀ r, R (m.reported r) (m'.reported r)

/-- Whether an instruction reads neither the delay timer nor the dialect. -/
def Instruction.isPlain : Instruction → Bool
  | .combine .. | .draw .. | .readDelay _ => false
  | _ => true

namespace Carries

variable {R : Machine → Machine → Prop} {around around' : Surroundings} {α : Type} (h : Carries R around around')

include h

lemma field {f : Machine → α} (hf : ∀ m, f m = f m.core) {m m' : Machine} (hm : R m m') : f m = f m' := by
  rw [hf m, hf m', h.core hm]

lemma onCore {act : Action α} (hact : Action.OnCore act) : Coupled R Eq act act := by
  intro m m' hm
  rw [hact m, hact m', h.core hm]
  cases act m'.core with
  | ok a k => exact .ok rfl (h.adopt hm k)
  | error e k => exact .error e (h.adopt hm k)

lemma onState {next : Machine → Action α} (hsame : ∀ m, next m = next m.core)
    (hnext : ∀ m, Coupled R Eq (next m) (next m)) : Coupled R Eq (get >>= next) (get >>= next) := by
  apply coupled_bind coupled_get
  intro m m' hm
  rw [hsame m, hsame m', h.core hm]
  exact hnext _

lemma report (r : Report) : Coupled R Eq (Action.report r) (Action.report r) := by
  intro m m' hm
  rw [Action.report_run, Action.report_run]
  exact .ok rfl (h.reported hm r)

lemma change {f : Machine → Machine} (hf : ∀ m, f m = m.adopt (f m.core)) : Coupled R Eq (modify f) (modify f) :=
  h.onCore (Action.onCore_modify hf)

lemma pressKey (code : Int) : Coupled R Eq (Action.pressKey code) (Action.pressKey code) := by
  apply coupled_bind (h.onCore (Action.onCore_slot _ _))
  rintro key _ rfl
  apply h.onState (fun _ => rfl)
  intro m
  apply coupled_bind (h.change fun _ => rfl)
  intro _ _ _
  split
  · exact h.report _
  · exact coupled_pure rfl

lemma setKeys (codes : List Int) : Coupled R Eq (Action.setKeys codes) (Action.setKeys codes) := by
  apply coupled_forM _
  intro key
  split
  · exact h.pressKey _
  · exact h.onCore (Action.onCore_releaseKey _)

lemma randomByte : Coupled R Eq (Action.randomByte around) (Action.randomByte around') :=
  fun _ _ hm => .ok (h.random hm) (h.advance hm)

lemma resumeOnKey : Coupled R Eq Action.resumeOnKey Action.resumeOnKey := by
  apply coupled_bind (h.onCore Action.onCore_pollKey)
  rintro press _ rfl
  cases press with
  | none => exact coupled_pure rfl
  | some code =>
    apply h.onState (fun _ => rfl)
    intro m
    split
    · apply coupled_bind (h.onCore (Action.onCore_slot _ _))
      rintro x _ rfl
      apply coupled_bind (h.onCore (Action.onCore_setRegister _ _))
      intro _ _ _
      exact coupled_bind (h.change fun _ => rfl) fun _ _ _ => h.report _
    · exact coupled_throw _

lemma execute {i : Instruction} (hplain : i.isPlain) :
    Coupled R Eq (Action.execute around i) (Action.execute around' i) := by
  cases i with
  | clearScreen => exact h.change fun _ => rfl
  | returnFromCall =>
    apply coupled_bind (h.onCore Action.onCore_popReturn)
    rintro address _ rfl
    exact h.change fun _ => rfl
  | jump target => exact h.onCore (Action.onCore_jump _)
  | call target =>
    apply h.onState (fun _ => rfl)
    intro m
    exact h.onCore (Action.onCore_bind (Action.onCore_pushReturn _) fun _ => Action.onCore_jump _)
  | skip condition =>
    apply h.onCore
    apply Action.onCore_bind (Action.onCore_holds _)
    intro met
    split
    · exact Action.onCore_skip
    · exact Action.onCore_pure _
  | setConstant x kk => exact h.onCore (Action.onCore_setRegister _ _)
  | addConstant x kk =>
    exact h.onCore (Action.onCore_bind (Action.onCore_register _) fun _ => Action.onCore_setRegister _ _)
  | setIndex target => exact h.change fun _ => rfl
  | jumpFromFirst base =>
    exact h.onCore (Action.onCore_bind (Action.onCore_register _) fun _ => Action.onCore_jump _)
  | random x mask =>
    apply coupled_bind h.randomByte
    rintro byte _ rfl
    exact h.onCore (Action.onCore_setRegister _ _)
  | awaitKey x =>
    apply coupled_bind (h.change fun _ => rfl)
    intro _ _ _
    exact coupled_bind (h.change fun _ => rfl) fun _ _ _ => h.report _
  | setDelay x =>
    apply coupled_bind (h.onCore (Action.onCore_register x))
    rintro value _ rfl
    exact coupled_modify fun m m' hm => h.setDelay hm value
  | setSound x =>
    apply coupled_bind (h.onCore (Action.onCore_register x))
    rintro value _ rfl
    exact coupled_modify fun m m' hm => h.setSound hm value
  | addIndex x =>
    apply h.onCore
    apply Action.onCore_get (fun _ => rfl)
    intro m
    apply Action.onCore_bind (Action.onCore_register x)
    intro _
    exact Action.onCore_bind (Action.onCore_checkRange _ _) fun _ => Action.onCore_modify fun _ => rfl
  | pointAtGlyph x =>
    exact h.onCore (Action.onCore_bind (Action.onCore_register x) fun _ => Action.onCore_modify fun _ => rfl)
  | storeDigits x => exact h.onCore (Action.onCore_storeDigits x)
  | storeRegisters last => exact h.onCore (Action.onCore_storeRegisters last)
  | loadRegisters last => exact h.onCore (Action.onCore_loadRegisters last)
  | _ => cases hplain

/-- Under one dialect only the delay timer can tell two runs apart. -/
lemma execute_of_dialect (hdialect : around.dialect = around'.dialect) {i : Instruction}
    (hdelay : ∀ x, i ≠ .readDelay x) : Coupled R Eq (Action.execute around i) (Action.execute around' i) := by
  cases i with
  | combine how x y =>
    have hsame : Action.combine around how x y = Action.combine around' how x y := by
      rw [Action.combine, Action.combine, hdialect]
    change Coupled R Eq (Action.combine around how x y) (Action.combine around' how x y)
    rw [← hsame]
    exact h.onCore (Action.onCore_combine how x y)
  | draw x y height =>
    have hsame : Action.drawSprite around x y height = Action.drawSprite around' x y height := by
      rw [Action.drawSprite, Action.drawSprite, hdialect]
    change Coupled R Eq (Action.drawSprite around x y height) (Action.drawSprite around' x y height)
    rw [← hsame]
    exact h.onCore (Action.onCore_drawSprite x y height)
  | readDelay x => exact absurd rfl (hdelay x)
  | _ => exact h.execute rfl

lemma executeWord_at {word : Word} {m m' : Machine} (hm : R m m')
    (hexecute : ∀ i, Instruction.decode word = some i →
      Alike R Eq (Action.execute around i m) (Action.execute around' i m')) :
    Alike R Eq (Action.executeWord around word m) (Action.executeWord around' word m') := by
  unfold Action.executeWord
  cases hdecode : Instruction.decode word with
  | some i => exact hexecute i hdecode
  | none => exact h.onState (fun _ => rfl) (fun m => coupled_throw _) m m' hm

/-- A step ends alike if the instruction that it fetches does. -/
lemma step_at {m m' : Machine} (hm : R m m')
    (hexecute : ∀ word i, m.awaiting = none → Action.fetch m = .ok word { m with counter := m.counter + 2 } →
      Instruction.decode word = some i → ∀ k, R (m.fetched word) k →
        Alike R Eq (Action.execute around i (m.fetched word)) (Action.execute around' i k)) :
    Alike R Eq (Action.step around m) (Action.step around' m') := by
  -- the register awaiting a key is part of the core, so either both machines are halted or neither is
  have hawaiting : m.awaiting = m'.awaiting := h.field (fun _ => rfl) hm
  have hcounter : m.counter = m'.counter := h.field (fun _ => rfl) hm
  cases hrun : m.awaiting with
  | some x =>
    have hhalted : m.awaiting.isSome := by rw [hrun]; rfl
    have hhalted' : m'.awaiting.isSome := by rw [← hawaiting, hrun]; rfl
    unfold Action.step
    rw [get_bind, get_bind, if_pos hhalted, if_pos hhalted']
    exact coupled_bind h.resumeOnKey (fun _ _ _ => coupled_pure rfl) m m' hm
  | none =>
    have hrun' : m'.awaiting = none := by rw [← hawaiting, hrun]
    have hfetch := h.onCore Action.onCore_fetch m m' hm
    generalize hword : Action.fetch m = result at hfetch
    generalize hword' : Action.fetch m' = result' at hfetch
    cases hfetch with
    | error e hstate =>
      rw [Machine.step_of_fetch_error hrun hword, Machine.step_of_fetch_error hrun' hword']
      exact .error e hstate
    | @ok word word' next next' hsame hstate =>
      subst hsame
      obtain rfl := Action.eq_of_fetch hword
      obtain rfl := Action.eq_of_fetch hword'
      have hfetched : R (m.fetched word) (m'.fetched word) := by
        have hreported := h.reported hstate (.fetched m.counter word)
        rw [Machine.fetched, Machine.fetched, ← hcounter]
        rw [← hcounter] at hreported
        exact hreported
      rw [Machine.step_of_fetch hrun hword, Machine.step_of_fetch hrun' hword', ← hcounter]
      have hword := h.executeWord_at hfetched fun i hdecode => hexecute word i hrun hword hdecode _ hfetched
      refine alike_bind (alike_blaming hword _ _) fun _ _ k k' _ _ _ hk => ?_
      exact coupled_bind (h.change fun _ => rfl) (fun _ _ _ => coupled_pure rfl) k k' hk

end Carries

namespace Attuned

variable {R : Machine → Machine → Prop} {around around' : Surroundings} (h : Attuned R around around')

include h

lemma execute (i : Instruction) : Coupled R Eq (Action.execute around i) (Action.execute around' i) := by
  cases i with
  | readDelay x =>
    apply coupled_bind coupled_get
    intro m m' hm
    rw [h.delay hm]
    exact h.onCore (Action.onCore_setRegister _ _)
  | _ => exact h.toCarries.execute_of_dialect h.dialect (by rintro x ⟨⟩)

lemma executeWord (word : Word) : Coupled R Eq (Action.executeWord around word) (Action.executeWord around' word) :=
  fun _ _ hm => h.executeWord_at hm fun i _ => h.execute i _ _ hm

lemma step : Coupled R Eq (Action.step around) (Action.step around') :=
  fun _ _ hm => h.step_at hm fun _ i _ _ _ k hk => h.execute i _ k hk

end Attuned

namespace Couples

variable {R : Machine → Machine → Prop} {around around' : Surroundings} (h : Couples R around around')

include h

lemma carries : Carries R around around' := { h with }

lemma tick : Coupled R Eq Action.tick Action.tick := by
  -- the timers are no part of the core: each branch is decided by a timer that the two machines share
  have hdelay (m m' : Machine) (hm : R m m') :
      R { m with delay := if m.delay > 0 then m.delay - 1 else m.delay }
        { m' with delay := if m'.delay > 0 then m'.delay - 1 else m'.delay } := by
    rw [h.delay hm]
    exact h.setDelay hm _
  have hsound (m m' : Machine) (hm : R m m') :
      R { m with sound := m.sound - 1 } { m' with sound := m'.sound - 1 } := by
    rw [h.sound hm]
    exact h.setSound hm _
  apply coupled_bind (coupled_modify hdelay)
  intro _ _ _
  apply coupled_bind coupled_get
  intro m m' hm
  rw [h.sound hm]
  split
  · apply coupled_bind (coupled_modify hsound)
    intro _ _ _
    apply coupled_bind coupled_get
    intro m m' hm
    rw [h.sound hm]
    split
    · exact h.carries.report _
    · exact coupled_pure rfl
  · exact coupled_pure rfl

lemma attuned : Attuned R around around' := { h with tick := h.tick }

end Couples

section Consoles

variable {τ α : Type}

/-- Consoles with related machines that agree on everything else. -/
structure Joined (R : Machine → Machine → Prop) (c c' : Console τ) : Prop where
  machine : R c.machine c'.machine
  timers : c.timers = c'.timers
  program : c.program = c'.program
  frames : c.frames = c'.frames

/-- Replies that are the same, or that show related consoles. -/
inductive SameReply (S : Console τ → Console τ → Prop) : Reply τ → Reply τ → Prop
  | equal (reply : Reply τ) : SameReply S reply reply
  | state {c c' : Console τ} (h : S c c') : SameReply S (.state c) (.state c')

inductive SameOutcome (S : Console τ → Console τ → Prop) : Session.Outcome τ → Session.Outcome τ → Prop
  | reply {r r' : Reply τ} (h : SameReply S r r') : SameOutcome S (.ok r) (.ok r')
  | failure (e : Failure) : SameOutcome S (.error e) (.error e)

variable {R : Machine → Machine → Prop} {S : Console τ → Console τ → Prop} {around around' : Surroundings}

/-- A relation of consoles that rests on one of their machines: it goes on when related machines are put in. -/
structure Over (S : Console τ → Console τ → Prop) (R : Machine → Machine → Prop) : Prop where
  machine {c c' : Console τ} : S c c' → R c.machine c'.machine
  replace {c c' : Console τ} {m m' : Machine} : S c c' → R m m' → S { c with machine := m } { c' with machine := m' }

lemma joined_over (R : Machine → Machine → Prop) : Over (Joined R : Console τ → Console τ → Prop) R where
  machine hc := hc.machine
  replace hc hm := ⟨hm, hc.timers, hc.program, hc.frames⟩

namespace Over

variable (hS : Over S R)

include hS

lemma onMachine_at {β : Type} {V : α → β → Prop} {act : Action α} {act' : Action β} {c c' : Console τ} (hc : S c c')
    (hact : Alike R V (act c.machine) (act' c'.machine)) :
    Alike S V (Console.onMachine act c) (Console.onMachine act' c') := by
  generalize hrun : act c.machine = result at hact
  generalize hrun' : act' c'.machine = result' at hact
  cases hact with
  | ok hvalue hstate =>
    rw [onMachine_of_ok hrun, onMachine_of_ok hrun']
    exact .ok hvalue (hS.replace hc hstate)
  | error e hstate =>
    rw [onMachine_of_error hrun, onMachine_of_error hrun']
    exact .error e (hS.replace hc hstate)

lemma onMachine {β : Type} {V : α → β → Prop} {act : Action α} {act' : Action β} (hact : Coupled R V act act') :
    Coupled S V (Console.onMachine act) (Console.onMachine act') :=
  fun _ _ hc => hS.onMachine_at hc (hact _ _ (hS.machine hc))

/-- Something done to the machine, and a reply that its value decides. -/
lemma replying {act act' : Action α} (hact : Coupled R Eq act act') (answer : α → Reply τ) :
    Coupled S Eq (Console.onMachine act >>= fun a => pure (answer a))
      (Console.onMachine act' >>= fun a => pure (answer a)) := by
  apply coupled_bind (hS.onMachine hact)
  rintro a _ rfl
  exact coupled_pure rfl

lemma silently {act act' : Action Unit} (hact : Coupled R Eq act act') :
    Coupled S Eq (Session.silently act : Console.Action τ (Reply τ)) (Session.silently act') :=
  hS.replying hact fun _ => .nothing

lemma change {f : Machine → Machine} (hf : ∀ m m', R m m' → R (f m) (f m')) :
    Coupled S Eq (Session.change f : Console.Action τ (Reply τ)) (Session.change f) :=
  hS.replying (coupled_modify hf) fun _ => .nothing

/-- A command that only answers a question about the core. -/
lemma question (h : Carries R around around') (answer : Machine → Reply τ) (hanswer : ∀ m, answer m = answer m.core) :
    Coupled S Eq (do return answer (← get).machine : Console.Action τ (Reply τ))
      (do return answer (← get).machine) := by
  apply coupled_bind coupled_get
  intro c c' hc
  rw [h.field hanswer (hS.machine hc)]
  exact coupled_pure rfl

end Over

lemma coupled_onMachine {β : Type} {V : α → β → Prop} {act : Action α} {act' : Action β} (hact : Coupled R V act act') :
    Coupled (Joined R) V (Console.onMachine act : Console.Action τ α) (Console.onMachine act') :=
  (joined_over R).onMachine hact

lemma coupled_times {act act' : Console.Action τ Unit} (hact : Coupled S Eq act act') (n : Nat) :
    Coupled S Eq (Console.times act n) (Console.times act' n) := by
  induction n with
  | zero => exact coupled_pure rfl
  | succ n ih => exact coupled_bind hact fun _ _ _ => ih

lemma coupled_equal {act act' : Console.Action τ (Reply τ)} (hact : Coupled S Eq act act') :
    Coupled S (SameReply S) act act' :=
  fun c c' hc => (hact c c' hc).imp fun r _ hr => hr ▸ .equal r

/-- Whether a command lets the clock run or asks what it shows. -/
def Command.isClock : Command τ → Bool
  | .update _ | .tick | .soundActive => true
  | _ => false

def Command.asksSound : Command τ → Bool
  | .soundActive => true
  | _ => false

variable [Duration τ]

/-- Keys are moved and awaited alike whatever the two consoles show on their clocks. -/
lemma Over.aside (hS : Over S R) (h : Carries R around around') {command : Command τ} (haside : command.isAside)
    (hclock : command.isClock = false) :
    Coupled S Eq (Session.perform around command) (Session.perform around' command) := by
  cases command with
  | resumeOnKey => exact hS.silently h.resumeOnKey
  | awaitingKey => exact hS.question h (fun m => .flag m.awaiting.isSome) fun _ => rfl
  | press code => exact hS.silently (h.pressKey code)
  | release code => exact hS.silently (h.onCore (Action.onCore_releaseKey code))
  | setKeys codes => exact hS.silently (h.setKeys codes)
  | discard => exact hS.silently (h.change fun _ => rfl)
  | isDown code => exact hS.question h (fun m => .flag (m.keypad.isDown code)) fun _ => rfl
  | poll =>
    apply coupled_bind (hS.onMachine (h.onCore Action.onCore_pollKey))
    rintro press _ rfl
    cases press with
    | none => exact coupled_pure rfl
    | some code => exact coupled_pure rfl
  | update | tick | soundActive => cases hclock
  | _ => cases haside

lemma coupled_update (htick : Coupled R Eq Action.tick Action.tick) (elapsed : τ) :
    Coupled (Joined R) Eq (Console.update elapsed) (Console.update elapsed) := by
  apply coupled_bind coupled_get
  intro c c' hc
  rw [hc.timers]
  cases c'.timers.advance elapsed with
  | error e => exact coupled_throw e
  | ok result =>
    have hadvanced (c c' : Console τ) (hc : Joined R c c') :
        Joined R { c with timers := result.2 } { c' with timers := result.2 } :=
      ⟨hc.machine, rfl, hc.program, hc.frames⟩
    apply coupled_bind (coupled_modify hadvanced)
    intro _ _ _
    apply coupled_bind (coupled_times (coupled_onMachine htick) _)
    intro _ _ _
    exact coupled_pure rfl

lemma coupled_step (h : Attuned R around around') (elapsed : τ) :
    Coupled (Joined R) Eq (Console.step around elapsed) (Console.step around' elapsed) :=
  coupled_bind (coupled_update h.tick elapsed) fun _ _ _ => coupled_onMachine h.step

lemma coupled_frame (h : Attuned R around around') (elapsed : τ) (instructions : Int) :
    Coupled (Joined R) Eq (Console.frame around elapsed instructions) (Console.frame around' elapsed instructions) := by
  apply coupled_bind (coupled_update h.tick elapsed)
  rintro ticks _ rfl
  have hsteps := coupled_bind (coupled_step h (Duration.ofNat 0 : τ)) fun _ _ _ => coupled_pure (rfl : () = ())
  have hcounted (c c' : Console τ) (hc : Joined R c c') :
      Joined R { c with frames := c.frames + 1 } { c' with frames := c'.frames + 1 } :=
    ⟨hc.machine, hc.timers, hc.program, congrArg (· + 1) hc.frames⟩
  apply coupled_bind (coupled_times hsteps _)
  intro _ _ _
  exact coupled_bind (coupled_modify hcounted) fun _ _ _ => coupled_pure rfl

/-- A machine put back in any way that sets both timers to zero. -/
lemma Carries.zeroed (h : Carries R around around') {f : Machine → Machine}
    (hf : ∀ m, f m = { m.adopt (f m.core) with delay := 0, sound := 0 }) {m m' : Machine} (hm : R m m') :
    R (f m) (f m') := by
  rw [hf m, hf m', h.core hm]
  exact h.setSound (h.setDelay (h.adopt hm _) 0) 0

lemma coupled_reset (h : Carries R around around') :
    Coupled (Joined R) Eq (Console.reset : Console.Action τ Unit) Console.reset := by
  intro c c' hc
  -- the program is the same for both, so the machine put back is one function of the machine before
  have hmachine := h.zeroed (f := fun m =>
    { m.resetState.resetPanel with memory := Memory.fresh.write programStart c'.program.bytes, executed := 0 })
    (fun _ => by simp only [Machine.resetState, Machine.resetPanel, Machine.adopt, Machine.core]) hc.machine
  rw [c.reset_run, c'.reset_run, Console.renewed, hc.program]
  exact .ok rfl ⟨h.reported hmachine _, congrArg Timers.reset hc.timers, rfl, rfl⟩

lemma coupled_load (h : Carries R around around') (program : List UInt8) :
    Coupled (Joined R) Eq (Console.load program : Console.Action τ Unit) (Console.load program) := by
  unfold Console.load
  split
  · apply coupled_bind (coupled_modify _) fun _ _ _ => coupled_reset h
    intro c c' hc
    exact ⟨hc.machine, hc.timers, rfl, hc.frames⟩
  · exact coupled_throw _

/-- Every command but the one for the sound timer answers alike. -/
lemma Attuned.perform (h : Attuned R around around') {command : Command τ} (hquiet : command.asksSound = false) :
    Coupled (Joined R) (SameReply (Joined R)) (Session.perform around command) (Session.perform around' command) := by
  have hS : Over (Joined R : Console τ → Console τ → Prop) R := joined_over R
  have hcore {f : Machine → Machine} (hf : ∀ m, f m = m.adopt (f m.core)) (m m' : Machine) (hm : R m m') :
      R (f m) (f m') := by
    rw [hf m, hf m', h.core hm]
    exact h.adopt hm _
  cases command with
  | load program => exact coupled_bind (coupled_load h.toCarries program) fun _ _ _ => coupled_pure (.equal _)
  | install program => exact coupled_equal (hS.silently (h.onCore (Action.onCore_installProgram program)))
  | reset => exact coupled_bind (coupled_reset h.toCarries) fun _ _ _ => coupled_pure (.equal _)
  | resetState =>
    have hzeroed (m : Machine) : m.resetState = { m.adopt m.core.resetState with delay := 0, sound := 0 } := by
      simp only [Machine.resetState, Machine.adopt, Machine.core]
    exact coupled_equal (hS.change fun m m' hm => h.zeroed hzeroed hm)
  | resetPanel => exact coupled_equal (hS.change (hcore fun _ => rfl))
  | resetTimers =>
    have htimers (c c' : Console τ) (hc : Joined R c c') :
        Joined R { c with timers := c.timers.reset } { c' with timers := c'.timers.reset } :=
      ⟨hc.machine, congrArg Timers.reset hc.timers, hc.program, hc.frames⟩
    exact coupled_bind (coupled_modify htimers) fun _ _ _ => coupled_pure (.equal _)
  | step elapsed =>
    apply coupled_bind (coupled_step h elapsed)
    rintro result _ rfl
    exact coupled_pure (.equal _)
  | stepMachine => exact coupled_equal (hS.replying h.step Session.stepped)
  | frame elapsed instructions =>
    apply coupled_bind (coupled_frame h _ _)
    intro _ _ _
    exact coupled_equal (hS.question h.toCarries (fun m => .number m.screen.litCount) fun _ => rfl)
  | execute word => exact coupled_equal (hS.silently (h.executeWord word))
  | update elapsed =>
    apply coupled_bind (coupled_update h.tick elapsed)
    rintro ticks _ rfl
    exact coupled_pure (.equal _)
  | tick => exact coupled_equal (hS.silently h.tick)
  | soundActive => cases hquiet
  | snapshot => exact coupled_bind coupled_get fun c c' hc => coupled_pure (.state hc)
  | fetch =>
    exact coupled_equal (hS.replying (h.onCore Action.onCore_fetch) fun word => .number word.val)
  | pushReturn address => exact coupled_equal (hS.silently (h.onCore (Action.onCore_pushReturn address)))
  | popReturn => exact coupled_equal (hS.replying (h.onCore Action.onCore_popReturn) .number)
  | jump target => exact coupled_equal (hS.silently (h.onCore (Action.onCore_jump target)))
  | skip => exact coupled_equal (hS.silently (h.onCore Action.onCore_skip))
  | checkRange start length =>
    exact coupled_equal (hS.silently (h.onCore (Action.onCore_checkRange start length)))
  | readMemory start length =>
    exact coupled_equal (hS.question h.toCarries (fun m => .bytes (m.memory.read start length)) fun _ => rfl)
  | setRegister register value =>
    exact coupled_equal (hS.silently (h.onCore (Action.onCore_bind (Action.onCore_slot _ _) fun x =>
      Action.onCore_setRegister x value)))
  | writeMemory _ _ | setRegisters _ | setStack _ | setAwaiting _ | markClean =>
    exact coupled_equal (hS.change (hcore fun _ => rfl))
  | setField field value =>
    apply coupled_equal (hS.change _)
    intro m m' hm
    cases field with
    | delay => exact h.setDelay hm value
    | sound => exact h.setSound hm value
    | _ => exact hcore (f := fun m => m.setField value _) (fun _ => rfl) m m' hm
  | setTracing value => exact coupled_equal (hS.change fun m m' hm => h.setTracing hm value)
  | draw x y rows =>
    rw [Session.perform, Session.perform, h.dialect]
    exact coupled_equal (hS.replying (h.onCore (Action.onCore_draw _ x y rows)) .flag)
  | clear => exact coupled_equal (hS.silently (h.change fun _ => rfl))
  | pixel x y =>
    exact coupled_equal
      (hS.question h.toCarries (fun m => .number (if m.screen.pixel x y then 1 else 0)) fun _ => rfl)
  | litCount =>
    exact coupled_equal (hS.question h.toCarries (fun m => .number m.screen.litCount) fun _ => rfl)
  | picture foreground background side =>
    apply coupled_bind coupled_get
    intro c c' hc
    have hscreen : c.machine.screen = c'.machine.screen := h.field (fun _ => rfl) hc.machine
    rw [hscreen]
    cases c'.machine.screen.picture? foreground background side with
    | ok picture => exact coupled_pure (.equal _)
    | error e => exact coupled_throw e
  | resumeOnKey | awaitingKey | press _ | release _ | setKeys _ | discard | isDown _ | poll =>
    exact coupled_equal (hS.aside h.toCarries rfl rfl)

lemma coupled_perform (h : Couples R around around') (command : Command τ) :
    Coupled (Joined R) (SameReply (Joined R)) (Session.perform around command) (Session.perform around' command) := by
  cases command with
  | soundActive =>
    apply coupled_bind coupled_get
    intro c c' hc
    rw [Console.soundActive, Console.soundActive, h.sound hc.machine]
    exact coupled_pure (.equal _)
  | _ => exact h.attuned.perform rfl

lemma answer_alike {V : Reply τ → Reply τ → Prop} {W : Session.Outcome τ → Session.Outcome τ → Prop}
    (hreply : ∀ r r', V r r' → W (.ok r) (.ok r')) (hfailure : ∀ e, W (.error e) (.error e))
    {command command' : Command τ} {c c' : Console τ}
    (halike : Alike S V (Session.perform around command c) (Session.perform around' command' c')) :
    W (Session.answer around command c).1 (Session.answer around' command' c').1 ∧
      S (Session.answer around command c).2 (Session.answer around' command' c').2 := by
  unfold Session.answer
  generalize Session.perform around command c = result at halike
  generalize Session.perform around' command' c' = result' at halike
  cases halike with
  | ok hvalue hstate => exact ⟨hreply _ _ hvalue, hstate⟩
  | error e hstate => exact ⟨hfailure e, hstate⟩

/-- Sessions with the same commands from joined consoles have the same outcomes and end in joined consoles. -/
theorem coupled_run (h : Couples R around around') (commands : List (Command τ)) {c c' : Console τ}
    (hc : Joined R c c') :
    List.Forall₂ (SameOutcome (Joined R)) (Session.run around commands c).1 (Session.run around' commands c').1 ∧
      Joined R (Session.run around commands c).2 (Session.run around' commands c').2 := by
  induction commands generalizing c c' with
  | nil => exact ⟨.nil, hc⟩
  | cons command rest ih =>
    have hfirst := answer_alike (fun _ _ => SameOutcome.reply) SameOutcome.failure (coupled_perform h command c c' hc)
    have hrest := ih hfirst.2
    exact ⟨.cons hfirst.1 hrest.1, hrest.2⟩

end Consoles

end Chip8
