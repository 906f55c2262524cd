import Chip8.Proofs.Dialects
import Chip8.Proofs.Footprint

/-!
# The arithmetic of registers

Registers are combined as bytes. What is lost in the byte is in the flag: carry, borrow, or the bit shifted out. Both
operands are read before anything is written, and the flag is written last, so a destination that is the flag register
ends with the flag. Main statement: `register_arithmetic_exact`, for combinations of any two registers, also of one with
itself or with the flag register, and for constants added to one. The results are bytes again, and no other register
changes.
-/

namespace Chip8

/-- How the registers stand after `x`, which held `a`, has taken in a register that held `b`. The flag is always that of
the old values; the value can be read where the flag has not taken its place. -/
def Combination.Exact (how : Combination) (shiftSecond : Bool) (x : Register) (a b : Int) (after : Vector Int 16) :
    Prop :=
  let value := after.get x
  let flag := after.get flagRegister
  let source := if shiftSecond then b else a
  match how with
  | .copy => value = b
  | .bitOr => ∀ k, Bits.bit value k = (Bits.bit a k || Bits.bit b k)
  | .bitAnd => ∀ k, Bits.bit value k = (Bits.bit a k && Bits.bit b k)
  | .bitXor => ∀ k, Bits.bit value k = (Bits.bit a k ^^ Bits.bit b k)
  | .add => flag = (if a + b > 255 then 1 else 0) ∧ (x ≠ flagRegister → value + 256 * flag = a + b)
  | .subtract => flag = (if a ≥ b then 1 else 0) ∧ (x ≠ flagRegister → value = a - b + 256 * (1 - flag))
  | .subtractFrom => flag = (if b ≥ a then 1 else 0) ∧ (x ≠ flagRegister → value = b - a + 256 * (1 - flag))
  | .shiftRight => flag = source % 2 ∧ (x ≠ flagRegister → 2 * value + flag = source)
  | .shiftLeft => flag = source / 128 ∧ (x ≠ flagRegister → value + 256 * flag = 2 * source)

/-- An instruction computes registers and does nothing else, executed by itself or in a step. The new registers are
bytes, and those that it does not write are the old ones. -/
structure Machine.Computes (around : Surroundings) (m : Machine) (i : Instruction) (after : Vector Int 16) : Prop where
  executed : Action.execute around i m = .ok () { m with registers := after }
  stepped : ∀ word, m.awaiting = none → m.word? = some word → Instruction.decode word = some i →
    Action.step around m = .ok (some i) { (m.fetched word).counted with registers := after }
  bytes : ∀ z, IsByte (after.get z)
  others : ∀ z, i.writesRegister z = false → after.get z = m.registers.get z

namespace Combination

variable {how : Combination} {shiftSecond : Bool} {x : Register} {a b : Int}

/-- The bits of bytes are those of natural numbers. -/
lemma bit_bitwise (ha : 0 ≤ a) (hb : 0 ≤ b) (k : Nat) :
    Bits.bit (Bits.either a b) k = (Bits.bit a k || Bits.bit b k) ∧
      Bits.bit (Bits.both a b) k = (Bits.bit a k && Bits.bit b k) ∧
      Bits.bit (Bits.differ a b) k = (Bits.bit a k ^^ Bits.bit b k) := by
  obtain ⟨m, rfl⟩ := Int.eq_ofNat_of_zero_le ha
  obtain ⟨n, rfl⟩ := Int.eq_ofNat_of_zero_le hb
  rw [Bits.either_ofNat, Bits.both_ofNat, Bits.differ_ofNat]
  simp only [Sprite.bit_ofNat]
  exact ⟨Nat.testBit_or m n k, Nat.testBit_and m n k, Nat.testBit_xor m n k⟩

/-- The registers that a combination leaves behind are exact, as long as the combined values are bytes. -/
lemma exact_result (how : Combination) (shiftSecond : Bool) (x : Register) (registers : Vector Int 16) (ha : IsByte a)
    (hb : IsByte b) :
    how.Exact shiftSecond x a b
      (match how.result shiftSecond a b with
      | (value, none) => put registers x value
      | (value, some flag) => put (put registers x value) flagRegister flag) := by
  have hbits := bit_bitwise ha.1 hb.1
  have hvalue (value : Int) : (put registers x value).get x = value := by rw [get_put, if_pos rfl]
  have hflag (value flag : Int) : (put (put registers x value) flagRegister flag).get flagRegister = flag := by
    rw [get_put, if_pos rfl]
  have hkept (value flag : Int) (hx : x ≠ flagRegister) :
      (put (put registers x value) flagRegister flag).get x = value := by
    rw [get_put, if_neg hx.symm, hvalue]
  have hsource : IsByte (if shiftSecond then b else a) := by
    split
    · exact hb
    · exact ha
  unfold IsByte at ha hb hsource
  cases how with
  | copy => exact hvalue b
  | bitOr => exact fun k => (congrArg (Bits.bit · k) (hvalue _)).trans (hbits k).1
  | bitAnd => exact fun k => (congrArg (Bits.bit · k) (hvalue _)).trans (hbits k).2.1
  | bitXor => exact fun k => (congrArg (Bits.bit · k) (hvalue _)).trans (hbits k).2.2
  | add | subtract | subtractFrom =>
    simp only [Exact, result, hflag, true_and]
    intro hx
    rw [hkept _ _ hx]
    split <;> omega
  | shiftRight =>
    simp only [Exact, result, hflag, true_and]
    intro hx
    rw [hkept _ _ hx]
    omega
  | shiftLeft =>
    simp only [Exact, result, hflag]
    refine ⟨by omega, fun hx => ?_⟩
    rw [hkept _ _ hx]
    omega

end Combination

namespace Machine

variable {around : Surroundings} {m : Machine} {i : Instruction} {after : Vector Int 16}

/-- What an instruction makes of the registers, wherever the counter stands. -/
lemma computes_of_execute
    (hexecute : ∀ m' : Machine, m'.registers = m.registers →
      Action.execute around i m' = .ok () { m' with registers := after })
    (hbytes : ∀ z, IsByte (after.get z)) (hothers : ∀ z, i.writesRegister z = false → after.get z = m.registers.get z) :
    m.Computes around i after where
  executed := hexecute m rfl
  stepped word hrun hword hdecode := by
    have hfetch := Action.fetch_run (counter_of_word? hword).1
    rw [hword] at hfetch
    exact step_of_execute hrun hfetch hdecode (hexecute (m.fetched word) rfl)
  bytes := hbytes
  others := hothers

end Machine

/-- Registers hold bytes. Each combination of two registers and its flag are exact in the old values, a constant is
added modulo 256, and all other registers stay. -/
theorem register_arithmetic_exact (around : Surroundings) (m : Machine)
    (hm : ∀ z : Register, IsByte (m.registers.get z)) (x y : Register) :
    (∀ how : Combination, ∃ after, m.Computes around (.combine how x y) after ∧
      how.Exact around.dialect.shiftUsesVy x (m.registers.get x) (m.registers.get y) after) ∧
    ∀ kk : Constant, ∃ after, m.Computes around (.addConstant x kk) after ∧
      after.get x = (m.registers.get x + kk.val) % 256 := by
  constructor
  · intro how
    refine ⟨m.combined around how x y, ?_, how.exact_result around.dialect.shiftUsesVy x m.registers (hm x) (hm y)⟩
    refine Machine.computes_of_execute (fun m' hsame => ?_) (Machine.isByte_combined around hm how x y)
      fun z => Machine.get_combined_of_ne
    have hcombined : m'.combined around how x y = m.combined around how x y := by
      rw [Machine.combined, Machine.combined, hsame]
    exact (Action.combine_run how x y).trans (by rw [hcombined])
  · intro kk
    have hsum : IsByte ((m.registers.get x + kk.val) % 256) := by
      simp only [IsByte]
      omega
    refine ⟨put m.registers x ((m.registers.get x + kk.val) % 256), ?_, by rw [get_put, if_pos rfl]⟩
    refine Machine.computes_of_execute (fun m' hsame => ?_) (Machine.isByte_put hm x hsum) fun z hkept => ?_
    · rw [← hsame]
      rfl
    · rw [get_put, if_neg (Ne.symm (of_decide_eq_false hkept))]

/-- The flag register shifted to the value of another one: what is left in it is the bit shifted out. -/
theorem register_arithmetic_exact_flag :
    let around : Surroundings := ⟨⟨true, false⟩, fun _ => 0⟩
    let m : Machine := { Machine.fresh with registers := put (put (Vector.replicate 16 0) flagRegister 3) 1 200 }
    (∀ z : Register, IsByte (m.registers.get z)) ∧
      ∃ after, m.Computes around (.combine .shiftLeft flagRegister 1) after ∧ after.get flagRegister = 1 := by
  intro around m
  have hm : ∀ z : Register, IsByte (m.registers.get z) := by
    unfold IsByte
    decide
  obtain ⟨after, hcomputes, hexact⟩ := (register_arithmetic_exact around m hm flagRegister 1).1 .shiftLeft
  have hsource : (m.registers.get 1 : Int) / 128 = 1 := by decide
  exact ⟨hm, after, hcomputes, hexact.1.trans hsource⟩

end Chip8
