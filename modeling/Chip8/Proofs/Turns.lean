import Chip8.Proofs.Keeping

/-!
# What the machine reports of its work

The machine works in turns: its timers tick, it takes a step, it executes an instruction by itself, or it looks for a
press. What a turn reports while tracing is on can be told from the machine before and after it (`Turn.told`): a word
that was fetched, a halt, the end of a halt, and a sound timer that came down to zero. Main statement:
`Turn.gained_after`, for machines in any state.
-/

namespace Chip8

namespace Action

section Keeping

variable {P : Machine → Prop} {α : Type}

lemma keeps_fault (cause : FaultCause) : Keeps P (fault cause : Action α) :=
  keeps_bind keeps_get fun _ => keeps_throw _

lemma keeps_slot (n : Nat) (i : Int) : Keeps P (slot n i) := by
  unfold slot
  cases slot? n i with
  | none => exact keeps_throw _
  | some k => exact keeps_pure k

lemma keeps_register (x : Register) : Keeps P (register x) := keeps_bind keeps_get fun _ => keeps_pure _

lemma keeps_load (address : Int) : Keeps P (load address) :=
  keeps_bind (keeps_slot _ _) fun _ => keeps_bind keeps_get fun _ => keeps_pure _

lemma keeps_checkRange (start length : Int) : Keeps P (checkRange start length) := by
  unfold checkRange
  split
  · exact keeps_fault _
  · exact keeps_pure _

lemma keeps_holds (condition : Condition) : Keeps P (holds condition) := by
  cases condition <;> exact fun _ hm => hm

end Keeping

end Action

namespace Machine

/-- The halt and the trace of a machine. -/
def status (m : Machine) : Option Int × Bool × List Report := (m.awaiting, m.tracing, m.reports)

/-- A property that is decided by the halt and the trace. -/
def Aloof (P : Machine → Prop) : Prop := ∀ m m' : Machine, m'.status = m.status → P m → P m'

lemma aloof_status (status : Option Int × Bool × List Report) : Aloof (·.status = status) :=
  fun _ _ hsame hm => hsame.trans hm

namespace Aloof

variable {P : Machine → Prop} (hP : Aloof P) {around : Surroundings}

include hP

lemma change {f : Machine → Machine} (hf : ∀ m, (f m).status = m.status) : Keeps P (modify f : Action Unit) :=
  keeps_modify fun m => hP m (f m) (hf m)

lemma setRegister (x : Register) (value : Int) : Keeps P (Action.setRegister x value) := hP.change fun _ => rfl

lemma store (address value : Int) : Keeps P (Action.store address value) := by
  refine keeps_bind (Action.keeps_slot _ _) fun cell => ?_
  split
  · exact hP.change fun _ => rfl
  · exact keeps_throw _

lemma fetch : Keeps P Action.fetch := by
  refine keeps_bind keeps_get fun m => ?_
  dsimp only
  split
  · exact Action.keeps_fault _
  · refine keeps_bind (Action.keeps_slot _ _) fun high => keeps_bind (Action.keeps_slot _ _) fun low => ?_
    exact keeps_bind (hP.change fun _ => rfl) fun _ => keeps_bind keeps_get fun _ => keeps_pure _

lemma pushReturn (address : Int) : Keeps P (Action.pushReturn address) := by
  refine keeps_bind keeps_get fun m => ?_
  split
  · exact Action.keeps_fault _
  · exact keeps_bind keeps_get fun _ => keeps_bind (Action.keeps_slot _ _) fun _ => hP.change fun _ => rfl

lemma popReturn : Keeps P Action.popReturn := by
  refine keeps_bind keeps_get fun m => ?_
  split
  · exact Action.keeps_fault _
  · refine keeps_bind (hP.change fun _ => rfl) fun _ => keeps_bind keeps_get fun _ => ?_
    exact keeps_bind (Action.keeps_slot _ _) fun _ => keeps_bind keeps_get fun _ => keeps_pure _

lemma jump (target : Int) : Keeps P (Action.jump target) := by
  unfold Action.jump
  split
  · exact hP.change fun _ => rfl
  · exact Action.keeps_fault _

lemma skip : Keeps P Action.skip := by
  refine keeps_bind keeps_get fun m => ?_
  split
  · exact Action.keeps_fault _
  · exact hP.change fun _ => rfl

lemma randomByte : Keeps P (Action.randomByte around) :=
  keeps_bind keeps_get fun _ => keeps_bind (hP.change fun _ => rfl) fun _ => keeps_pure _

lemma draw (order : BitOrder) (x y : Int) (rows : List Int) : Keeps P (Action.draw order x y rows) :=
  keeps_bind keeps_get fun _ => keeps_bind (hP.change fun _ => rfl) fun _ => keeps_pure _

lemma combine (how : Combination) (x y : Register) : Keeps P (Action.combine around how x y) := by
  refine keeps_bind (Action.keeps_register x) fun _ => keeps_bind (Action.keeps_register y) fun _ => ?_
  refine keeps_bind (hP.setRegister _ _) fun _ => ?_
  split
  · exact keeps_pure _
  · exact hP.setRegister _ _

lemma drawSprite (x y : Register) (height : Fin 16) : Keeps P (Action.drawSprite around x y height) := by
  refine keeps_bind keeps_get fun _ => keeps_bind (Action.keeps_checkRange _ _) fun _ => ?_
  refine keeps_bind keeps_get fun _ => keeps_bind (Action.keeps_register x) fun _ => ?_
  refine keeps_bind (Action.keeps_register y) fun _ => ?_
  exact keeps_bind (hP.draw _ _ _ _) fun _ => hP.setRegister _ _

lemma storeDigits (x : Register) : Keeps P (Action.storeDigits x) := by
  refine keeps_bind keeps_get fun _ => keeps_bind (Action.keeps_checkRange _ _) fun _ => ?_
  refine keeps_bind (Action.keeps_register x) fun _ => keeps_bind (hP.store _ _) fun _ => ?_
  exact keeps_bind (hP.store _ _) fun _ => hP.store _ _

lemma storeRegisters (last : Register) : Keeps P (Action.storeRegisters last) := by
  refine keeps_bind keeps_get fun _ => keeps_bind (Action.keeps_checkRange _ _) fun _ => ?_
  exact keeps_forM _ fun i => keeps_bind (Action.keeps_register i) fun _ => hP.store _ _

lemma loadRegisters (last : Register) : Keeps P (Action.loadRegisters last) := by
  refine keeps_bind keeps_get fun _ => keeps_bind (Action.keeps_checkRange _ _) fun _ => ?_
  exact keeps_forM _ fun i => keeps_bind (Action.keeps_load _) fun _ => hP.setRegister _ _

/-- Only the instruction that awaits a key halts the machine or reports something. -/
lemma execute {i : Instruction} (hother : ∀ x, i ≠ .awaitKey x) : Keeps P (Action.execute around i) := by
  cases i with
  | clearScreen => exact hP.change fun _ => rfl
  | returnFromCall => exact keeps_bind hP.popReturn fun _ => hP.change fun _ => rfl
  | jump target => exact hP.jump _
  | call target => exact keeps_bind keeps_get fun _ => keeps_bind (hP.pushReturn _) fun _ => hP.jump _
  | skip condition =>
    refine keeps_bind (Action.keeps_holds condition) fun met => ?_
    split
    · exact hP.skip
    · exact keeps_pure _
  | setConstant x kk => exact hP.setRegister _ _
  | addConstant x kk => exact keeps_bind (Action.keeps_register x) fun _ => hP.setRegister _ _
  | combine how x y => exact hP.combine how x y
  | setIndex target => exact hP.change fun _ => rfl
  | jumpFromFirst base => exact keeps_bind (Action.keeps_register _) fun _ => hP.jump _
  | random x mask => exact keeps_bind hP.randomByte fun _ => hP.setRegister _ _
  | draw x y height => exact hP.drawSprite x y height
  | readDelay x => exact keeps_bind keeps_get fun _ => hP.setRegister _ _
  | awaitKey x => exact absurd rfl (hother x)
  | setDelay x => exact keeps_bind (Action.keeps_register x) fun _ => hP.change fun _ => rfl
  | setSound x => exact keeps_bind (Action.keeps_register x) fun _ => hP.change fun _ => rfl
  | addIndex x =>
    refine keeps_bind keeps_get fun _ => keeps_bind (Action.keeps_register x) fun _ => ?_
    exact keeps_bind (Action.keeps_checkRange _ _) fun _ => hP.change fun _ => rfl
  | pointAtGlyph x => exact keeps_bind (Action.keeps_register x) fun _ => hP.change fun _ => rfl
  | storeDigits x => exact hP.storeDigits x
  | storeRegisters last => exact hP.storeRegisters last
  | loadRegisters last => exact hP.loadRegisters last

end Aloof

end Machine

/-- The register that a word awaits a key for, if that is what it means. -/
def Word.halting? (word : Word) : Option Register :=
  match Instruction.decode word with
  | some (.awaitKey x) => some x
  | _ => none

namespace Action

variable {around : Surroundings} {word : Word} {m : Machine}

lemma executeWord_of_halting {x : Register} (hhalting : word.halting? = some x) :
    executeWord around word m =
      .ok () ({ m with keypad := m.keypad.discard, awaiting := some (x.val : Int) }.reported (.awaitingKey x)) := by
  have hdecode : Instruction.decode word = some (.awaitKey x) := by
    unfold Word.halting? at hhalting
    split at hhalting
    · next heq => rw [heq, Option.some.inj hhalting]
    · cases hhalting
  rw [executeWord, hdecode]
  exact report_run _

lemma executeWord_of_not_halting (hhalting : word.halting? = none) :
    (ending (executeWord around word m)).status = m.status := by
  have hkeeps : Keeps (·.status = m.status) (executeWord around word) := by
    unfold executeWord
    cases hdecode : Instruction.decode word with
    | none => exact keeps_bind keeps_get fun _ => keeps_throw _
    | some i =>
      refine (Machine.aloof_status m.status).execute fun x hx => ?_
      rw [Word.halting?, hdecode, hx] at hhalting
      cases hhalting
  exact hkeeps m rfl

lemma ending_blaming (address : Int) (word : Word) (act : Action Unit) (m : Machine) :
    ending (blaming address word act m) = ending (act m) := by
  unfold blaming
  cases act m with
  | ok a next => rfl
  | error e next => cases e <;> rfl

/-- A look for a press changes neither halt nor trace, or it ends the halt. -/
lemma resumeOnKey_status (m : Machine) :
    (ending (resumeOnKey m)).status = m.status ∨
      ∃ x code, m.awaiting = some x ∧ m.keypad.pending.head? = some code ∧
        (ending (resumeOnKey m)).status =
          (none, m.tracing, if m.tracing then .keyStored code x :: m.reports else m.reports) := by
  have hpoll : pollKey m = .ok m.keypad.poll.1 { m with keypad := m.keypad.poll.2 } := rfl
  rw [resumeOnKey, bind_of_ok hpoll]
  unfold Keypad.poll
  cases hpending : m.keypad.pending with
  | nil => exact .inl rfl
  | cons code rest =>
    dsimp only
    rw [endHalt, get_bind]
    cases hwait : m.awaiting with
    | none => exact .inl (congrArg (·, m.tracing, m.reports) hwait).symm
    | some x =>
      dsimp only
      cases hslot : slot? 16 x with
      | none =>
        rw [bind_of_error (slot_of_none hslot)]
        exact .inl (congrArg (·, m.tracing, m.reports) hwait).symm
      | some k =>
        rw [bind_of_ok (slot_of_some hslot)]
        exact .inr ⟨x, code, rfl, rfl, congrArg (fun result => (ending result).status) (report_run _)⟩

end Action

namespace Machine

/-- A machine with a trace that has grown by some reports, if tracing was on. -/
def Gained (m : Machine) (reports : List Report) (m' : Machine) : Prop :=
  m'.tracing = m.tracing ∧ m'.reports = (if m.tracing then reports.reverse else []) ++ m.reports

variable {around : Surroundings} {word : Word} {m m' m'' : Machine} {xs ys : List Report}

lemma gained_of_status (hsame : m'.status = m.status) : m.Gained [] m' :=
  ⟨congrArg (·.2.1) hsame, (congrArg (·.2.2) hsame).trans (by rw [List.reverse_nil, ite_self]; rfl)⟩

lemma gained_reported (m : Machine) (r : Report) : m.Gained [r] (m.reported r) := by
  refine ⟨rfl, ?_⟩
  rw [reported]
  split
  · rfl
  · rfl

lemma Gained.trans (h : m.Gained xs m') (hlater : m'.Gained ys m'') : m.Gained (xs ++ ys) m'' := by
  refine ⟨hlater.1.trans h.1, ?_⟩
  rw [hlater.2, h.1, h.2]
  split
  · rw [List.reverse_append, List.append_assoc]
  · rfl

lemma Gained.of_status (h : m.Gained xs m') (hsame : m''.status = m'.status) : m.Gained xs m'' := by
  have hboth := h.trans (gained_of_status hsame)
  rwa [List.append_nil] at hboth

/-- A report that a halt has ended between two machines, with the oldest press kept and the register that awaited it. -/
def released? (m m' : Machine) : Option Report :=
  if m'.awaiting = none then m.awaiting.map (.keyStored (m.keypad.pending.headD 0)) else none

lemma released?_of_running (hrun : m.awaiting = none) (m' : Machine) : m.released? m' = none := by
  rw [released?, hrun, Option.map_none, ite_self]

lemma gained_resume (m : Machine) :
    m.Gained (m.released? (ending (Action.resumeOnKey m))).toList (ending (Action.resumeOnKey m)) := by
  rcases Action.resumeOnKey_status m with hsame | ⟨x, code, hwait, hhead, hstatus⟩
  · have hawaiting : (ending (Action.resumeOnKey m)).awaiting = m.awaiting := congrArg (·.1) hsame
    have hnone : m.released? (ending (Action.resumeOnKey m)) = none := by
      rw [released?, hawaiting]
      split
      · next hrun => rw [hrun, Option.map_none]
      · rfl
    rw [hnone]
    exact gained_of_status hsame
  · have hawaiting : (ending (Action.resumeOnKey m)).awaiting = none := congrArg (·.1) hstatus
    have hsome : m.released? (ending (Action.resumeOnKey m)) = some (.keyStored code x) := by
      rw [released?, if_pos hawaiting, hwait, List.headD_eq_head?_getD, hhead]
      rfl
    rw [hsome]
    exact ⟨congrArg (·.2.1) hstatus, (congrArg (·.2.2) hstatus).trans (gained_reported m (.keyStored code x)).2⟩

lemma ending_step_of_waiting (hwait : m.awaiting.isSome) :
    ending (Action.step around m) = ending (Action.resumeOnKey m) := by
  unfold Action.step
  rw [get_bind, if_pos hwait]
  cases hrun : Action.resumeOnKey m with
  | ok a next =>
    rw [bind_of_ok hrun]
    rfl
  | error e next =>
    rw [bind_of_error hrun]
    rfl

lemma status_step_of_fetch (hrun : m.awaiting = none) {next : Machine} (hfetch : Action.fetch m = .ok word next) :
    (ending (Action.step around m)).status = (ending (Action.executeWord around word (m.fetched word))).status := by
  obtain rfl := Action.eq_of_fetch hfetch
  rw [step_of_fetch hrun hfetch, ← Action.ending_blaming m.counter word]
  cases hexecute : Action.blaming m.counter word (Action.executeWord around word) (m.fetched word) with
  | ok a next =>
    rw [bind_of_ok hexecute]
    rfl
  | error e next =>
    rw [bind_of_error hexecute]
    rfl

end Machine

/-- What a report about the work of a machine tells. -/
inductive Report.Kind where
  | fetch
  | halt
  | release
  | expiry
  deriving DecidableEq, Repr

/-- The kind of a report, if it is about the work of a machine, not about its keys or its program. -/
def Report.kind? : Report → Option Report.Kind
  | .fetched _ _ => some .fetch
  | .awaitingKey _ => some .halt
  | .keyStored _ _ => some .release
  | .soundExpired => some .expiry
  | _ => none

/-- A turn of the machine, with the machine before it. -/
inductive Turn where
  | tick (before : Machine)
  | step (before : Machine)
  /-- An instruction by itself, apart from any fetch. -/
  | execute (word : Word) (before : Machine)
  /-- A look for a press, apart from any step. -/
  | resume (before : Machine)

namespace Turn

def before : Turn → Machine
  | .tick m | .step m | .execute _ m | .resume m => m

/-- The machine after a turn, however the turn ends. -/
def after (around : Surroundings) : Turn → Machine
  | .tick m => ending (Action.tick m)
  | .step m => ending (Action.step around m)
  | .execute word m => ending (Action.executeWord around word m)
  | .resume m => ending (Action.resumeOnKey m)

/-- A step that is not spent on a look for a press reports the word that it fetches, if it can fetch one, whatever
becomes of it. -/
def fetched? : Turn → Option Report
  | .step m =>
    if m.awaiting = none then
      match Action.fetch m with
      | .ok word _ => some (.fetched m.counter word)
      | .error _ _ => none
    else none
  | _ => none

/-- A step reports that it has halted the machine, and an instruction by itself that it is the one that halts. -/
def halted? (around : Surroundings) : Turn → Option Report
  | .step m =>
    if m.awaiting = none then
      (ending (Action.step around m)).awaiting.map fun x => .awaitingKey (residue 16 sixteen_pos x)
    else none
  | .execute word _ => word.halting?.map .awaitingKey
  | _ => none

/-- A turn that ends a halt reports the oldest press kept, and the register that awaited it. -/
def released? (around : Surroundings) (turn : Turn) : Option Report :=
  match turn with
  | .step m | .resume m => m.released? (turn.after around)
  | _ => none

/-- A tick reports that the sound timer has come down to zero. -/
def expired? (around : Surroundings) (turn : Turn) : Option Report :=
  match turn with
  | .tick m => if m.sound = 1 ∧ (turn.after around).sound = 0 then some .soundExpired else none
  | _ => none

/-- What a turn reports while tracing is on, in order. -/
def told (around : Surroundings) (turn : Turn) : List Report :=
  turn.fetched?.toList ++ (turn.halted? around).toList ++ (turn.released? around).toList ++
    (turn.expired? around).toList

variable {around : Surroundings} {m : Machine} {word : Word}

lemma gained_tick (around : Surroundings) (m : Machine) : m.Gained ((tick m).told around) ((tick m).after around) := by
  have hafter : (tick m).after around = m.ticked := by rw [after, Action.tick_run, ending]
  by_cases hone : m.sound = 1
  · have htold : (tick m).told around = [.soundExpired] := by
      have hzero : ((tick m).after around).sound = 0 := by simp [hafter, Machine.ticked, hone]
      simp [told, fetched?, halted?, released?, expired?, hone, hzero]
    have hreports : m.ticked.reports = (m.reported .soundExpired).reports := by
      simp only [Machine.ticked, Machine.reported, hone, true_and]
    rw [hafter, htold]
    exact ⟨rfl, hreports.trans (Machine.gained_reported m _).2⟩
  · have htold : (tick m).told around = [] := by simp [told, fetched?, halted?, released?, expired?, hone]
    rw [hafter, htold]
    exact ⟨rfl, by simp [Machine.ticked, hone]⟩

lemma gained_step_of_running (hrun : m.awaiting = none) (around : Surroundings) :
    m.Gained ((step m).told around) ((step m).after around) := by
  have htold : (step m).told around = (step m).fetched?.toList ++ ((step m).halted? around).toList := by
    have hreleased : (step m).released? around = none := Machine.released?_of_running hrun _
    rw [told, hreleased, Option.toList_none, List.append_nil]
    exact List.append_nil _
  have hhalted : (step m).halted? around =
      ((step m).after around).awaiting.map fun x => .awaitingKey (residue 16 sixteen_pos x) := if_pos hrun
  cases hfetch : Action.fetch m with
  | error e next =>
    have hstatus : ((step m).after around).status = m.status := by
      have hkept := (Machine.aloof_status m.status).fetch m rfl
      rw [hfetch] at hkept
      rw [after, Machine.step_of_fetch_error hrun hfetch]
      exact hkept
    have hawaiting : ((step m).after around).awaiting = m.awaiting := congrArg (·.1) hstatus
    have hfetched : (step m).fetched? = none := by rw [fetched?, if_pos hrun, hfetch]
    rw [htold, hhalted, hfetched, hawaiting, hrun]
    exact Machine.gained_of_status hstatus
  | ok word next =>
    have hstatus : ((step m).after around).status = _ := Machine.status_step_of_fetch hrun hfetch
    have hawaiting : ((step m).after around).awaiting =
      (ending (Action.executeWord around word (m.fetched word))).awaiting := congrArg (·.1) hstatus
    have hfetched : (step m).fetched? = some (.fetched m.counter word) := by rw [fetched?, if_pos hrun, hfetch]
    have hgained : m.Gained [.fetched m.counter word] (m.fetched word) := Machine.gained_reported _ _
    rw [htold, hhalted, hfetched, hawaiting]
    refine (hgained.trans ?_).of_status hstatus
    cases hhalting : word.halting? with
    | none =>
      have hsame : (ending (Action.executeWord around word (m.fetched word))).status = (m.fetched word).status :=
        Action.executeWord_of_not_halting hhalting
      have hrunning : (ending (Action.executeWord around word (m.fetched word))).awaiting = none :=
        (congrArg (·.1) hsame).trans hrun
      rw [hrunning]
      exact Machine.gained_of_status hsame
    | some x =>
      have hslot : residue 16 sixteen_pos (x.val : Int) = x := residue_val sixteen_pos x
      rw [Action.executeWord_of_halting hhalting, ending]
      have hreport : (some (x.val : Int)).map (fun x => Report.awaitingKey (residue 16 sixteen_pos x)) =
          some (.awaitingKey x) := congrArg (some ∘ Report.awaitingKey) hslot
      exact hreport ▸ Machine.gained_reported _ _

/-- The trace grows by what a turn tells, whatever state the machine is in and however the turn ends. -/
theorem gained_after (around : Surroundings) (turn : Turn) :
    turn.before.Gained (turn.told around) (turn.after around) := by
  cases turn with
  | tick m => exact gained_tick around m
  | step m =>
    cases hwait : m.awaiting with
    | none => exact gained_step_of_running hwait around
    | some x =>
      have hrun : m.awaiting ≠ none := by simp [hwait]
      have hafter : (step m).after around = ending (Action.resumeOnKey m) :=
        Machine.ending_step_of_waiting (by simp [hwait])
      have htold : (step m).told around = (m.released? (ending (Action.resumeOnKey m))).toList := by
        rw [told, fetched?, halted?, if_neg hrun, if_neg hrun, released?, hafter]
        exact List.append_nil _
      rw [htold, hafter]
      exact Machine.gained_resume m
  | execute word m =>
    cases hhalting : word.halting? with
    | none =>
      have htold : (execute word m).told around = [] := by simp [told, fetched?, halted?, released?, expired?, hhalting]
      rw [htold]
      exact Machine.gained_of_status (Action.executeWord_of_not_halting hhalting)
    | some x =>
      have htold : (execute word m).told around = [.awaitingKey x] := by
        simp [told, fetched?, halted?, released?, expired?, hhalting]
      rw [htold, after, Action.executeWord_of_halting hhalting]
      exact Machine.gained_reported _ _
  | resume m =>
    have htold : (resume m).told around = (m.released? (ending (Action.resumeOnKey m))).toList := List.append_nil _
    rw [htold]
    exact Machine.gained_resume m

/-! ## Kinds of reports -/

/-- The report of a kind that a turn makes while tracing is on, if it makes one. -/
def report? (around : Surroundings) : Report.Kind → Turn → Option Report
  | .fetch, turn => turn.fetched?
  | .halt, turn => turn.halted? around
  | .release, turn => turn.released? around
  | .expiry, turn => turn.expired? around

lemma kind?_of_report? {turn : Turn} {kind : Report.Kind} {r : Report} (hr : r ∈ turn.report? around kind) :
    r.kind? = some kind := by
  cases kind with
  | fetch =>
    cases turn with
    | step m =>
      have hfetched : r ∈ (step m).fetched? := hr
      rw [fetched?] at hfetched
      split at hfetched
      · split at hfetched
        · cases hfetched
          rfl
        · cases hfetched
      · cases hfetched
    | _ => cases hr
  | halt =>
    cases turn with
    | step m =>
      have hhalted : r ∈ (step m).halted? around := hr
      rw [halted?] at hhalted
      split at hhalted
      · obtain ⟨x, -, rfl⟩ := Option.mem_map.1 hhalted
        rfl
      · cases hhalted
    | execute word m =>
      obtain ⟨x, -, rfl⟩ := Option.mem_map.1 hr
      rfl
    | _ => cases hr
  | release =>
    have hreleased (m m' : Machine) (hmem : r ∈ m.released? m') : r.kind? = some .release := by
      unfold Machine.released? at hmem
      split at hmem
      · obtain ⟨x, -, rfl⟩ := Option.mem_map.1 hmem
        rfl
      · cases hmem
    cases turn with
    | step m => exact hreleased m _ hr
    | resume m => exact hreleased m _ hr
    | _ => cases hr
  | expiry =>
    cases turn with
    | tick m =>
      have hexpired : r ∈ (tick m).expired? around := hr
      rw [expired?] at hexpired
      split at hexpired
      · cases hexpired
        rfl
      · cases hexpired
    | _ => cases hr

lemma filter_report? (turn : Turn) (kind other : Report.Kind) :
    (turn.report? around other).toList.filter (fun r => r.kind? = some kind) =
      if other = kind then (turn.report? around kind).toList else [] := by
  split
  · next hsame =>
    subst hsame
    refine List.filter_eq_self.2 fun r hr => ?_
    exact decide_eq_true (kind?_of_report? (Option.mem_toList.1 hr))
  · next hother =>
    refine List.filter_eq_nil_iff.2 fun r hr hkind => hother ?_
    have hr' := kind?_of_report? (Option.mem_toList.1 hr)
    rw [of_decide_eq_true hkind] at hr'
    exact (Option.some.inj hr').symm

/-- A turn makes at most one report of each kind. -/
lemma filter_told (around : Surroundings) (turn : Turn) (kind : Report.Kind) :
    (turn.told around).filter (fun r => r.kind? = some kind) = (turn.report? around kind).toList := by
  have htold : turn.told around = (turn.report? around .fetch).toList ++ (turn.report? around .halt).toList ++
      (turn.report? around .release).toList ++ (turn.report? around .expiry).toList := rfl
  rw [htold, List.filter_append, List.filter_append, List.filter_append, filter_report?, filter_report?, filter_report?,
    filter_report?]
  cases kind <;> simp

lemma filter_flatMap_told (around : Surroundings) (turns : List Turn) (kind : Report.Kind) :
    (turns.flatMap (told around)).filter (fun r => r.kind? = some kind) = turns.filterMap (report? around kind) := by
  induction turns with
  | nil => rfl
  | cons turn turns ih =>
    rw [List.flatMap_cons, List.filter_append, filter_told, ih, List.filterMap_cons]
    cases turn.report? around kind with
    | none => rfl
    | some r => rfl

lemma kind?_of_mem_told {turn : Turn} {r : Report} (hr : r ∈ turn.told around) : r.kind?.isSome := by
  simp only [told, List.mem_append, Option.mem_toList] at hr
  rcases hr with ((hr | hr) | hr) | hr
  · have hfetch : r ∈ turn.report? around .fetch := hr
    rw [kind?_of_report? hfetch]
    rfl
  · have hhalt : r ∈ turn.report? around .halt := hr
    rw [kind?_of_report? hhalt]
    rfl
  · have hrelease : r ∈ turn.report? around .release := hr
    rw [kind?_of_report? hrelease]
    rfl
  · have hexpiry : r ∈ turn.report? around .expiry := hr
    rw [kind?_of_report? hexpiry]
    rfl

end Turn

end Chip8
