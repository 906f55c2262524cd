import Chip8.Proofs.Starts

/-!
# Dialects

Two dialects part ways only where a shift names two registers that differ, or where a sprite has a row that is not its
own mirror image. Up to there a session has the same outcome of every command under both, and the same console at the
end (`dialects_agree`). A dialect that shifts alike is not asked about shifts, and one that draws alike not about
sprites.
-/

namespace Chip8

namespace Sprite

/-- The lowest eight bits of a row in reverse order. -/
def mirrored (row : Int) : Int := (Nat.ofBits fun k : Fin 8 => Bits.bit row (7 - k.val) : Nat)

lemma bit_ofNat (n i : Nat) : Bits.bit (n : Int) i = n.testBit i := by
  have hshift : (n : Int) >>> i = ((n >>> i : Nat) : Int) := rfl
  rw [Bits.bit, hshift, Nat.testBit_eq_decide_div_mod_eq, Nat.shiftRight_eq_div_pow]
  apply decide_eq_decide.2
  omega

/-- The lowest eight bits of two rows are mirror images. -/
def Mirrors (row row' : Int) : Prop := ∀ k : Fin 8, Bits.bit row' k.val = Bits.bit row (7 - k.val)

instance (row row' : Int) : Decidable (Mirrors row row') := Nat.decidableForallFin _

lemma mirrors_mirrored (row : Int) : Mirrors row (mirrored row) := by
  intro k
  rw [mirrored, bit_ofNat, Nat.testBit_ofBits_lt _ _ k.isLt]

lemma lit_of_mirrors {row row' : Int} (h : Mirrors row row') : lit .highestLeft row' = lit .lowestLeft row := by
  funext column
  have hcolumn := h column.rev
  have hrev : column.rev.val = 7 - column.val := by
    rw [Fin.val_rev]
    omega
  have hback : 7 - (7 - column.val) = column.val := by omega
  rwa [hrev, hback] at hcolumn

/-- With the lowest bit on the left a sprite covers what its mirror image covers with the highest bit there. -/
lemma cells_of_mirrors (x y : Int) {rows rows' : List Int} (h : List.Forall₂ Mirrors rows rows') :
    cells .highestLeft x y rows' = cells .lowestLeft x y rows := by
  induction h generalizing y with
  | nil => rfl
  | cons hrow _ ih => rw [cells, cells, ih, rowCells, rowCells, lit_of_mirrors hrow]

/-- A sprite of rows that are their own mirror images covers the same cells either way. -/
lemma cells_of_mirrored (order order' : BitOrder) (x y : Int) {rows : List Int}
    (hrows : ∀ row ∈ rows, mirrored row = row) : cells order x y rows = cells order' x y rows := by
  have hmirrors : List.Forall₂ Mirrors rows rows := by
    rw [List.forall₂_same]
    intro row hrow
    have hrow' := mirrors_mirrored row
    rwa [hrows row hrow] at hrow'
  have hcells := cells_of_mirrors x y hmirrors
  cases order with
  | highestLeft =>
    cases order' with
    | highestLeft => rfl
    | lowestLeft => exact hcells
  | lowestLeft =>
    cases order' with
    | highestLeft => exact hcells.symm
    | lowestLeft => rfl

end Sprite

namespace Instruction

/-- The registers of a shift. -/
def shifts? : Instruction → Option (Register × Register)
  | .combine .shiftRight x y | .combine .shiftLeft x y => some (x, y)
  | _ => none

def spriteHeight? : Instruction → Option (Fin 16)
  | .draw _ _ height => some height
  | _ => none

end Instruction

/-- An instruction finds nothing that the dialects would take differently: a shift has two equal registers to choose
from, and no row of a sprite looks different from behind. -/
structure Machine.Agreeable (d d' : Dialect Bool) (m : Machine) (i : Instruction) : Prop where
  shift : d.shiftUsesVy ≠ d'.shiftUsesVy → ∀ pair ∈ i.shifts?, m.registers.get pair.1 = m.registers.get pair.2
  sprite : d.spriteLsbLeft ≠ d'.spriteLsbLeft →
    ∀ height ∈ i.spriteHeight?, ∀ row ∈ m.sprite height, Sprite.mirrored row = row

instance {d d' : Dialect Bool} {m : Machine} {i : Instruction} : Decidable (m.Agreeable d d' i) :=
  decidable_of_iff (_ ∧ _) ⟨fun h => ⟨h.1, h.2⟩, fun h => ⟨h.shift, h.sprite⟩⟩

section Machines

variable {d d' : Dialect Bool} {m : Machine}

lemma Screen.draw_of_mirrored (x y : Int) {rows : List Int}
    (hrows : d.spriteLsbLeft ≠ d'.spriteLsbLeft → ∀ row ∈ rows, Sprite.mirrored row = row) (s : Screen) :
    s.draw d.bitOrder x y rows = s.draw d'.bitOrder x y rows := by
  by_cases hsame : d.spriteLsbLeft = d'.spriteLsbLeft
  · rw [Dialect.bitOrder, Dialect.bitOrder, hsame]
  · rw [Screen.draw, Screen.draw, Sprite.cells_of_mirrored d.bitOrder d'.bitOrder x y (hrows hsame)]

/-- Whether the sprite fits into memory does not depend on the dialect. -/
lemma Action.drawSprite_run (around : Surroundings) (x y : Register) (height : Fin 16) :
    drawSprite around x y height m =
      if m.index < 0 ∨ m.index + height.val > 4096 then
        .error (.fault ⟨.rangeOutside m.index height.val, m.counter, none⟩) m
      else .ok () (m.effect around (.draw x y height)) := by
  rw [drawSprite, get_bind]
  by_cases hrange : m.index < 0 ∨ m.index + height.val > 4096
  · have hcheck : checkRange m.index height.val m =
        .error (.fault ⟨.rangeOutside m.index height.val, m.counter, none⟩) m := by
      rw [checkRange, if_pos hrange]
      rfl
    rw [bind_of_error hcheck, if_pos hrange]
  · have hcheck : checkRange m.index height.val m = .ok () m := by
      rw [checkRange, if_neg hrange]
      rfl
    rw [bind_of_ok hcheck, if_neg hrange]
    rfl

lemma Machine.combined_of_agreeable (random : Nat → UInt8) {how : Combination} {x y : Register}
    (hagree : m.Agreeable d d' (.combine how x y)) :
    m.combined ⟨d, random⟩ how x y = m.combined ⟨d', random⟩ how x y := by
  by_cases hsame : d.shiftUsesVy = d'.shiftUsesVy
  · rw [combined, combined, hsame]
  · cases how with
    | shiftRight | shiftLeft =>
      -- both registers hold what is shifted, so it does not matter which one is read
      have hequal : m.registers.get x = m.registers.get y := hagree.shift hsame (x, y) rfl
      simp only [combined, Combination.result, hequal, ite_self]
    | _ => rfl

/-- Under both dialects an instruction ends in the same way if it finds nothing that they would take differently. -/
lemma Action.execute_of_agreeable {random : Nat → UInt8} {i : Instruction}
    (hagree : ∀ next, execute ⟨d, random⟩ i m = .ok () next → m.Agreeable d d' i) :
    execute ⟨d, random⟩ i m = execute ⟨d', random⟩ i m := by
  cases i with
  | combine how x y =>
    have hcombined := Machine.combined_of_agreeable random (hagree _ (combine_run how x y))
    change combine _ how x y m = combine _ how x y m
    rw [combine_run, combine_run, hcombined]
  | draw x y height =>
    change drawSprite _ x y height m = drawSprite _ x y height m
    by_cases hrange : m.index < 0 ∨ m.index + height.val > 4096
    · rw [drawSprite_run, drawSprite_run, if_pos hrange, if_pos hrange]
    · have hrun : execute ⟨d, random⟩ (.draw x y height) m = .ok () (m.effect ⟨d, random⟩ (.draw x y height)) :=
        (drawSprite_run _ x y height).trans (if_neg hrange)
      have hdrawing : m.drawing ⟨d, random⟩ x y height = m.drawing ⟨d', random⟩ x y height :=
        Screen.draw_of_mirrored _ _ (fun hdiffer => (hagree _ hrun).sprite hdiffer height rfl) _
      rw [drawSprite_run, drawSprite_run, if_neg hrange, if_neg hrange, Machine.effect, Machine.effect, hdrawing]
  | _ => rfl

lemma alike_eq_iff {σ α : Type} {result result' : EStateM.Result Failure σ α} :
    Alike Eq Eq result result' ↔ result = result' := by
  constructor
  · rintro (⟨rfl, rfl⟩ | ⟨e, rfl⟩)
    · rfl
    · rfl
  · rintro rfl
    cases result with
    | ok a s => exact .ok rfl rfl
    | error e s => exact .error e rfl

lemma Action.step_of_agreeable {random : Nat → UInt8} (hagree : ∀ i ∈ m.completed? ⟨d, random⟩, m.Agreeable d d' i) :
    Action.step ⟨d, random⟩ m = Action.step ⟨d', random⟩ m := by
  have hcarries : Carries Eq ⟨d, random⟩ ⟨d', random⟩ :=
    { core := fun h => by rw [h]
      random := fun h => by rw [h]
      adopt := fun h k => by rw [h]
      setDelay := fun h value => by rw [h]
      setSound := fun h value => by rw [h]
      advance := fun h => by rw [h]
      setTracing := fun h value => by rw [h]
      reported := fun h r => by rw [h] }
  apply alike_eq_iff.1
  apply hcarries.step_at rfl
  rintro word i hrun hfetch hdecode _ rfl
  apply alike_eq_iff.2
  apply Action.execute_of_agreeable
  intro next hexecute
  have hcompletes := Machine.completes_of_execute hrun hfetch hdecode hexecute
  obtain ⟨hshift, hsprite⟩ := hagree i (Machine.completes_iff.1 hcompletes)
  exact ⟨hshift, hsprite⟩

end Machines

section Consoles

variable {τ : Type} [Duration τ]

/-- Whatever a command executes or draws finds nothing that another dialect would take differently. -/
def Command.Agreeable (around : Surroundings) (d : Dialect Bool) (c : Console τ) : Command τ → Prop
  | .execute word => ∀ i ∈ Instruction.decode word,
    (∃ next, Action.execute around i c.machine = .ok () next) → c.machine.Agreeable around.dialect d i
  | .draw _ _ rows => around.dialect.spriteLsbLeft ≠ d.spriteLsbLeft → ∀ row ∈ rows, Sprite.mirrored row = row
  | command => ∀ m ∈ Session.startsOf around command c, ∀ i ∈ m.completed? around, m.Agreeable around.dialect d i

def Session.Agreeable (around : Surroundings) (d : Dialect Bool) : List (Command τ) → Console τ → Prop
  | [], _ => True
  | command :: rest, c => command.Agreeable around d c ∧ Agreeable around d rest (answer around command c).2

variable {around : Surroundings} {d : Dialect Bool} {c : Console τ}

lemma perform_of_agreeable {command : Command τ} (hagree : command.Agreeable around d c) :
    Session.perform around command c = Session.perform { around with dialect := d } command c := by
  have hupdate (elapsed : τ) : Coupled Eq (fun _ _ => True) (Console.update elapsed) (Console.update elapsed) := by
    rintro c _ rfl
    exact (alike_eq_iff.2 rfl).imp fun _ _ _ => trivial
  have hguarded : Guarded (Eq : Console τ → Console τ → Prop) Eq
      (fun m => ∀ i ∈ m.completed? around, m.Agreeable around.dialect d i) around { around with dialect := d } :=
    { machine := fun h => by rw [h]
      replace := fun h hm => by rw [h, hm]
      step := by
        rintro m _ rfl hm
        exact alike_eq_iff.2 (Action.step_of_agreeable hm)
      screen := fun h => by rw [h]
      idle := hupdate _
      counted := fun h => by rw [h] }
  cases command with
  | step | stepMachine | frame => exact alike_eq_iff.1 (hguarded.perform_at (paced_self hupdate rfl) rfl hagree).1
  | execute word =>
    have hword : Action.executeWord around word c.machine =
        Action.executeWord { around with dialect := d } word c.machine := by
      unfold Action.executeWord
      cases hdecode : Instruction.decode word with
      | none => rfl
      | some i => exact Action.execute_of_agreeable fun next hexecute => hagree i hdecode ⟨next, hexecute⟩
    have hmachine := hguarded.onMachine_at (rfl : c = c) (alike_eq_iff.2 hword)
    refine alike_eq_iff.1 (alike_bind hmachine fun _ _ k k' _ _ _ hk => ?_)
    exact .ok rfl hk
  | draw x y rows =>
    have hdraw : Action.draw around.dialect.bitOrder x y rows = Action.draw d.bitOrder x y rows := by
      funext m
      simp only [Action.draw, Screen.draw_of_mirrored x y hagree]
    rw [Session.perform, Session.perform, hdraw]
  | _ => rfl

/-- A session runs the same under another dialect as long as each shift and each sprite is one that the two treat alike.
-/
theorem dialects_agree (around : Surroundings) (d : Dialect Bool) (commands : List (Command τ)) (c : Console τ)
    (hagree : Session.Agreeable around d commands c) :
    Session.run around commands c = Session.run { around with dialect := d } commands c := by
  induction commands generalizing c with
  | nil => rfl
  | cons command rest ih =>
    obtain ⟨hfirst, hrest⟩ := hagree
    have hanswer : Session.answer around command c = Session.answer { around with dialect := d } command c := by
      rw [Session.answer, Session.answer, perform_of_agreeable hfirst]
    rw [run_cons, run_cons, ih _ hrest, hanswer]

/-- A shift of two equal registers and a sprite that looks the same from both sides. -/
theorem dialects_agree_symmetric :
    let around : Surroundings := ⟨Dialect.modern, fun _ => 0⟩
    let program : List UInt8 := [0x80, 0x16, 0xA2, 0x06, 0xD0, 0x01, 0x3C]
    let m : Machine := { Machine.fresh with memory := Memory.write (Vector.replicate 4096 0) 0x200 program }
    let c : Console Rat := { Console.fresh none with machine := m }
    let commands : List (Command Rat) :=
      [.setRegister 0 6, .setRegister 1 6, .frame (some 0) (some 3), .draw 3 4 [0x18], .execute 0x823E, .snapshot]
    Session.Agreeable around ⟨true, true⟩ commands c ∧
      Session.run around commands c = Session.run ⟨⟨true, true⟩, fun _ => 0⟩ commands c := by
  intro around program m c commands
  have hagree : Session.Agreeable around ⟨true, true⟩ commands c := by
    refine ⟨List.forall_mem_nil _, List.forall_mem_nil _, ?_, ?_, ?_, List.forall_mem_nil _, trivial⟩
    · change ∀ m ∈ Session.startsOf around (.frame (some 0) (some 3)) _, ∀ i ∈ m.completed? around,
        m.Agreeable around.dialect ⟨true, true⟩ i
      decide +kernel
    · change _ → ∀ row ∈ [0x18], Sprite.mirrored row = row
      decide +kernel
    · rintro i ⟨⟩ -
      decide +kernel
  exact ⟨hagree, dialects_agree around ⟨true, true⟩ commands c hagree⟩

end Consoles

end Chip8
