import Chip8.Proofs.KeyQueue

/-!
# Keypads set from a list of codes

Setting the keypad moves each key once and against where it stood, so what comes of it depends only on which keys the
list names: another list of the same keys does the same, and changes nothing if it comes second. Main statement:
`listed_keys_are_down`.
-/

namespace Chip8

namespace Keypad

variable {codes codes' : List Int} {down : Vector Bool 16} {key : Key}

/-- The keys that a list of codes names and that are up, from the lowest. -/
def risen (down : Vector Bool 16) (codes : List Int) : List Key :=
  (List.finRange 16).filter fun key => decide ((key.val : Int) ∈ codes) && !down.get key

lemma mem_risen : key ∈ risen down codes ↔ (key.val : Int) ∈ codes ∧ down.get key = false := by
  simp [risen]

lemma pairwise_risen : (risen down codes).Pairwise (· < ·) :=
  (List.sortedLT_finRange 16).pairwise.filter _

lemma get_named : (named codes).get key = true ↔ (key.val : Int) ∈ codes := by
  change (named codes)[key.val] = true ↔ _
  rw [named, Vector.getElem_ofFn, decide_eq_true_iff]

/-- Lists that name the same keys raise the same ones. -/
lemma risen_congr (hsame : ∀ key : Key, (key.val : Int) ∈ codes' ↔ (key.val : Int) ∈ codes) :
    risen down codes' = risen down codes := by
  simp only [risen, hsame]

lemma named_congr (hsame : ∀ key : Key, (key.val : Int) ∈ codes' ↔ (key.val : Int) ∈ codes) :
    named codes' = named codes := by
  simp only [named, hsame]

/-- Nothing rises among keys that are down already. -/
lemma risen_named : risen (named codes) codes = [] := by
  rw [List.eq_nil_iff_forall_not_mem]
  intro key hkey
  rw [mem_risen, ← get_named, Bool.eq_false_iff] at hkey
  exact hkey.2 hkey.1

end Keypad

lemma Action.setKeys_of_room (codes : List Int) {m : Machine} (hroom : m.keypad.pending.length ≤ 16) :
    setKeys codes m = .ok () (m.rekeyed ⟨Keypad.named codes,
      Keypad.newest (m.keypad.pending ++ (Keypad.risen m.keypad.down codes).map fun key => (key.val : Int))⟩
      ((Keypad.risen m.keypad.down codes).map fun key => (key.val : Int))) := by
  apply setKeys_run codes
  rw [Keypad.newest_of_length_le hroom]

/-- Once the listed keys are down, setting them again changes nothing. -/
lemma Action.setKeys_again {codes : List Int} {m : Machine} (hroom : m.keypad.pending.length ≤ 16)
    (hdown : m.keypad.down = Keypad.named codes) : setKeys codes m = .ok () m := by
  rw [setKeys_of_room codes hroom, hdown, Keypad.risen_named, List.map_nil, Machine.rekeyed_nil, List.append_nil,
    Keypad.newest_of_length_le hroom, ← hdown]

/-- Setting the keypad completes with exactly the listed keys down. The presses kept are the last sixteen of those
before and of the listed keys that were up, from the lowest. -/
theorem listed_keys_are_down (codes : List Int) (m : Machine) (hroom : m.keypad.pending.length ≤ 16) :
    ∃ (risen : List Key) (after : Machine), Action.setKeys codes m = .ok () after ∧
      (∀ key : Key, after.keypad.down.get key = true ↔ (key.val : Int) ∈ codes) ∧
      risen.Pairwise (· < ·) ∧
      (∀ key : Key, key ∈ risen ↔ (key.val : Int) ∈ codes ∧ m.keypad.down.get key = false) ∧
      after.keypad.pending = Keypad.newest (m.keypad.pending ++ risen.map fun key => (key.val : Int)) ∧
      after = { m with keypad := after.keypad, reports := after.reports } ∧
      ∀ codes', (∀ key : Key, (key.val : Int) ∈ codes' ↔ (key.val : Int) ∈ codes) →
        Action.setKeys codes' m = .ok () after ∧ Action.setKeys codes' after = .ok () after := by
  refine ⟨Keypad.risen m.keypad.down codes, _, Action.setKeys_of_room codes hroom, fun key => Keypad.get_named,
    Keypad.pairwise_risen, fun key => Keypad.mem_risen, rfl, rfl, ?_⟩
  intro codes' hsame
  constructor
  · rw [Action.setKeys_of_room codes' hroom, Keypad.risen_congr hsame, Keypad.named_congr hsame]
  · apply Action.setKeys_again
    · exact Keypad.length_newest _
    · exact (Keypad.named_congr hsame).symm

/-- A full queue, keys that are listed twice or are down already, and codes that name no key. -/
theorem listed_keys_are_down_full :
    let codes : List Int := [12, 9, 16, 3, 9, -1]
    let keypad : Keypad := ⟨put (put (Vector.replicate 16 false) 3 true) 7 true,
      [0, 1, 2, 3, 4, 5, 6, 7, 8, 9, 10, 11, 12, 13, 7]⟩
    let m : Machine := { Machine.fresh with keypad }
    m.keypad.pending.length ≤ 16 ∧ ∃ after, Action.setKeys codes m = .ok () after ∧
      after.keypad.pending = [1, 2, 3, 4, 5, 6, 7, 8, 9, 10, 11, 12, 13, 7, 9, 12] ∧
      after.keypad.down.get 7 = false ∧ Action.setKeys [3, 9, 12] m = .ok () after ∧
      Action.setKeys [3, 9, 12] after = .ok () after := by
  intro codes keypad m
  have hroom : m.keypad.pending.length ≤ 16 := by decide
  have hsame : ∀ key : Key, (key.val : Int) ∈ [3, 9, 12] ↔ (key.val : Int) ∈ codes := by decide
  obtain ⟨risen, after, hset, hdown, hsorted, hrisen, hpending, -, hagain⟩ := listed_keys_are_down codes m hroom
  have hnew : risen = [9, 12] := by
    apply List.Pairwise.eq_of_mem_iff hsorted (by decide)
    intro key
    rw [hrisen]
    revert key
    decide
  have hseven : after.keypad.down.get 7 = false := by
    rw [Bool.eq_false_iff, Ne, hdown]
    decide
  rw [hnew] at hpending
  exact ⟨hroom, after, hset, hpending, hseven, hagain _ hsame⟩

end Chip8
