import Chip8.Sound.SquareWave
import Mathlib.Tactic

/-!
# One wave in pieces

However a wave is cut into pieces, its samples are those of one wave without a break, counted from where it began or was
last silent, and its phase is the number of these samples modulo the period. A frame has its samples as words of sixteen
bits, the lower byte first, if all of them fit; if not, it fails, and the wave has gone on all the same. A silent frame
has no samples and rewinds the wave. Main statement: `wave_goes_on`, for all sequences of pieces that are asked for.
-/

namespace Chip8.SquareWave

/-- A piece of the wave that is asked for. -/
inductive Request where
  | samples (count : Int)
  | frame (active : Bool) (framesPerSecond : Int)

namespace Request

def silences : Request → Bool
  | .frame false _ => true
  | _ => false

/-- The samples made for a request, also if they do not fit into the words of a frame. -/
def made (w : SquareWave) : Request → List Int
  | .samples count => ((w.samples count).map Prod.fst).toOption.getD []
  | .frame active framesPerSecond => ((w.frameSamples active framesPerSecond).map Prod.fst).toOption.getD []

def waveAfter (w : SquareWave) : Request → SquareWave
  | .samples count => ((w.samples count).map Prod.snd).toOption.getD w
  | .frame active framesPerSecond => (w.frame active framesPerSecond).2

end Request

/-- A wave, and the samples made since it began or was last silent. -/
structure Tape where
  wave : SquareWave
  since : List Int

namespace Tape

def after (t : Tape) (request : Request) : Tape :=
  ⟨request.waveAfter t.wave, if request.silences then [] else t.since ++ request.made t.wave⟩

/-- The tape of a wave after requests one after the other. -/
def record (w : SquareWave) (requests : List Request) : Tape := requests.foldl after ⟨w, []⟩

end Tape

/-- Two bytes, the lower one first, as a number in two's complement. -/
def word (low high : UInt8) : Int :=
  let n : Int := low.toNat + 256 * high.toNat
  if n < 32768 then n else n - 65536

/-- Bytes as words, if they come in pairs. -/
def words? : List UInt8 → Option (List Int)
  | [] => some []
  | [_] => none
  | low :: high :: rest => (words? rest).map (word low high :: ·)

/-- The wave some samples after the start of a period. -/
def passed (w : SquareWave) (n : Nat) : SquareWave := { w with phase := n % w.period }

/-- The sample at some distance from the start of a period. -/
def levelAt (w : SquareWave) (k : Nat) : Int := if k % w.period < w.period / 2 then w.amplitude else -w.amplitude

variable (w : SquareWave) (k n : Nat)

lemma next_passed : (w.passed k).next = w.passed (k + 1) := by
  have hphase : (k % w.period + 1) % w.period = (k + 1) % w.period := Nat.mod_add_mod k w.period 1
  unfold passed
  rw [← hphase]
  rfl

lemma samplesOnto_passed (done : List Int) :
    samplesOnto done n (w.passed k) = (((List.range' k n).map w.levelAt).reverse ++ done, w.passed (k + n)) := by
  induction n generalizing done k with
  | zero => rfl
  | succ n ih =>
    have hlevel : (w.passed k).level = w.levelAt k := rfl
    rw [samplesOnto, next_passed, hlevel, ih, List.range'_succ, List.map_cons, List.reverse_cons, List.append_assoc]
    simp only [List.singleton_append, Nat.add_assoc, Nat.add_comm 1 n]

variable {w}

lemma samples_passed (hperiod : w.frequency ≠ 0) (count : Int) : (w.passed k).samples count =
    .ok ((List.range' k count.toNat).map w.levelAt, w.passed (k + count.toNat)) := by
  have hfrequency : (w.passed k).frequency ≠ 0 := hperiod
  rw [samples, if_neg hfrequency, samplesOnto_passed, List.append_nil]
  dsimp only
  rw [List.reverse_reverse]

lemma frameSamples_passed (hperiod : w.frequency ≠ 0) {framesPerSecond : Int} (hframes : framesPerSecond ≠ 0) :
    (w.passed k).frameSamples true framesPerSecond =
      .ok ((List.range' k (Int.fdiv w.sampleRate framesPerSecond).toNat).map w.levelAt,
        w.passed (k + (Int.fdiv w.sampleRate framesPerSecond).toNat)) := by
  rw [frameSamples, if_neg (by simp), if_neg hframes]
  exact samples_passed k hperiod _

lemma frame_passed (hperiod : w.frequency ≠ 0) {framesPerSecond : Int} (hframes : framesPerSecond ≠ 0) :
    (w.passed k).frame true framesPerSecond =
      (if ((List.range' k (Int.fdiv w.sampleRate framesPerSecond).toNat).map w.levelAt).all fits then
        .ok (((List.range' k (Int.fdiv w.sampleRate framesPerSecond).toNat).map w.levelAt).flatMap encode)
      else .error .sampleOutOfRange, w.passed (k + (Int.fdiv w.sampleRate framesPerSecond).toNat)) := by
  rw [frame, frameSamples_passed k hperiod hframes]
  dsimp only
  split <;> rfl

lemma fits_iff {sample : Int} : fits sample ↔ -32768 ≤ sample ∧ sample ≤ 32767 := by
  simp [fits]

lemma toNat_ofNat_emod (a : Int) : ((UInt8.ofNat (a % 256).toNat).toNat : Int) = a % 256 := by
  rw [UInt8.toNat_ofNat']
  omega

lemma word_encode {sample : Int} (hfits : fits sample) :
    word (UInt8.ofNat (sample % 256).toNat) (UInt8.ofNat (sample / 256 % 256).toNat) = sample := by
  have hrange := fits_iff.1 hfits
  unfold word
  simp only [toNat_ofNat_emod]
  split <;> omega

/-- The bytes of samples that fit are read back as the samples. -/
lemma words?_flatMap_encode {samples : List Int} (hfits : ∀ sample ∈ samples, fits sample) :
    words? (samples.flatMap encode) = some samples := by
  induction samples with
  | nil => rfl
  | cons sample rest ih =>
    have hrest := ih fun later hlater => hfits later (List.mem_cons_of_mem _ hlater)
    rw [List.flatMap_cons, encode, List.cons_append, List.cons_append, List.nil_append, words?, hrest, Option.map_some,
      word_encode (hfits sample List.mem_cons_self)]

/-- A frame has its samples as words if all of them fit, and fails if not. The wave goes on in both cases. -/
lemma frame_outcome (hperiod : w.frequency ≠ 0) {framesPerSecond : Int} (hframes : framesPerSecond ≠ 0) {more : Nat}
    (hmore : (Int.fdiv w.sampleRate framesPerSecond).toNat = more) :
    ((∀ sample ∈ (List.range' k more).map w.levelAt, -32768 ≤ sample ∧ sample ≤ 32767) ∧
      ∃ bytes, (w.passed k).frame true framesPerSecond = (.ok bytes, w.passed (k + more)) ∧
        words? bytes = some ((List.range' k more).map w.levelAt)) ∨
    ((∃ sample ∈ (List.range' k more).map w.levelAt, sample < -32768 ∨ 32767 < sample) ∧
      (w.passed k).frame true framesPerSecond = (.error .sampleOutOfRange, w.passed (k + more))) := by
  have hframe := frame_passed k hperiod hframes
  rw [hmore] at hframe
  by_cases hfits : ∀ sample ∈ (List.range' k more).map w.levelAt, fits sample
  · rw [if_pos (List.all_eq_true.2 hfits)] at hframe
    exact .inl ⟨fun sample hsample => fits_iff.1 (hfits sample hsample), _, hframe, words?_flatMap_encode hfits⟩
  · rw [if_neg (mt List.all_eq_true.1 hfits)] at hframe
    push Not at hfits
    obtain ⟨sample, hsample, hlarge⟩ := hfits
    rw [Ne, fits_iff] at hlarge
    exact .inr ⟨⟨sample, hsample, by omega⟩, hframe⟩

/-- A tape that holds a wave without a break. -/
structure Tape.Unbroken (w : SquareWave) (t : Tape) : Prop where
  wave : t.wave = w.passed t.since.length
  since : t.since = (List.range' 0 t.since.length).map w.levelAt

namespace Tape.Unbroken

variable {t : Tape}

lemma silenced : Unbroken w ⟨w.rewind, []⟩ where
  wave := by
    rw [passed, List.length_nil, Nat.zero_mod]
    rfl
  since := rfl

lemma extended (h : Unbroken w t) :
    Unbroken w ⟨w.passed (t.since.length + n), t.since ++ (List.range' t.since.length n).map w.levelAt⟩ where
  wave := by simp
  since := by
    have hlength : (t.since ++ (List.range' t.since.length n).map w.levelAt).length = t.since.length + n := by simp
    rw [hlength, ← List.range'_append_1, List.map_append, ← h.since, Nat.zero_add]

/-- Whatever is asked for next, the wave goes on or begins anew. -/
lemma after (hperiod : w.frequency ≠ 0) (h : Unbroken w t) (request : Request) : Unbroken w (t.after request) := by
  cases request with
  | samples count =>
    have hsamples := samples_passed t.since.length hperiod count
    rw [← h.wave] at hsamples
    simp only [Tape.after, Request.silences, Request.waveAfter, Request.made, hsamples]
    exact h.extended count.toNat
  | frame active framesPerSecond =>
    cases active with
    | false =>
      have hrewind : t.wave.rewind = w.rewind := by
        rw [h.wave]
        rfl
      have hframe : t.wave.frame false framesPerSecond = (.ok [], w.rewind) := by
        rw [← hrewind]
        rfl
      simp only [Tape.after, Request.silences, Request.waveAfter, hframe]
      exact silenced
    | true =>
      by_cases hframes : framesPerSecond = 0
      · have hnone : t.wave.frameSamples true framesPerSecond = .error .divisionByZero := by
          rw [frameSamples, if_neg (by simp), if_pos hframes]
        have hframe : t.wave.frame true framesPerSecond = (.error .divisionByZero, t.wave) := by rw [frame, hnone]
        simp only [Tape.after, Request.silences, Request.waveAfter, Request.made, hframe, hnone]
        exact (List.append_nil t.since).symm ▸ h
      · have hsamples := frameSamples_passed t.since.length hperiod hframes
        have hframe := frame_passed t.since.length hperiod hframes
        rw [← h.wave] at hsamples hframe
        simp only [Tape.after, Request.silences, Request.waveAfter, Request.made, hframe, hsamples]
        exact h.extended _

lemma record (hperiod : w.frequency ≠ 0) (requests : List Request) (hstart : w.phase = 0) :
    Unbroken w (Tape.record w requests) := by
  induction requests using List.reverseRecOn with
  | nil =>
    have hrewind : w.rewind = w := by rw [rewind, ← hstart]
    have hsilent : Unbroken w ⟨w.rewind, []⟩ := silenced
    rwa [hrewind] at hsilent
  | append_singleton requests request ih =>
    rw [Tape.record, List.foldl_append]
    exact ih.after hperiod request

end Tape.Unbroken

/-- Ask a wave for any pieces, one after the other: their samples, and the next ones, are those of a wave without a
break. -/
theorem wave_goes_on (sampleRate frequency amplitude : Int) (hfrequency : frequency ≠ 0) (requests : List Request) :
    let period := (max 1 (Int.fdiv sampleRate frequency)).toNat
    let level (k : Nat) : Int := if k % period < period / 2 then amplitude else -amplitude
    let waveAt (n : Nat) : SquareWave := ⟨frequency, sampleRate, amplitude, n % period⟩
    let t := Tape.record ⟨frequency, sampleRate, amplitude, 0⟩ requests
    let count := t.since.length
    t.since = (List.range count).map level ∧
    t.wave = waveAt count ∧
    (∀ more : Int,
      t.wave.samples more = .ok ((List.range' count more.toNat).map level, waveAt (count + more.toNat))) ∧
    (∀ framesPerSecond, framesPerSecond ≠ 0 →
      let more := (max 0 (Int.fdiv sampleRate framesPerSecond)).toNat
      let next := (List.range' count more).map level
      ((∀ sample ∈ next, -32768 ≤ sample ∧ sample ≤ 32767) ∧
        ∃ bytes, t.wave.frame true framesPerSecond = (.ok bytes, waveAt (count + more)) ∧ words? bytes = some next) ∨
      ((∃ sample ∈ next, sample < -32768 ∨ 32767 < sample) ∧
        t.wave.frame true framesPerSecond = (.error .sampleOutOfRange, waveAt (count + more)))) ∧
    ∀ framesPerSecond, t.wave.frame false framesPerSecond = (.ok [], waveAt 0) := by
  intro period level waveAt t count
  let w : SquareWave := ⟨frequency, sampleRate, amplitude, 0⟩
  have ht : t.Unbroken w := Tape.Unbroken.record hfrequency requests rfl
  have hwave : t.wave = waveAt count := ht.wave
  refine ⟨?_, hwave, ?_, ?_, ?_⟩
  · rw [List.range_eq_range']
    exact ht.since
  · intro more
    rw [hwave]
    exact samples_passed (w := w) count hfrequency more
  · intro framesPerSecond hframes more next
    have hmore : (Int.fdiv w.sampleRate framesPerSecond).toNat = more := by
      change (Int.fdiv sampleRate framesPerSecond).toNat = more
      omega
    rw [hwave]
    exact frame_outcome (w := w) count hfrequency hframes hmore
  · intro framesPerSecond
    have hstart : waveAt 0 = w := by simp [waveAt, w]
    rw [hwave, hstart]
    rfl

/-- An odd period, a piece that is too loud for a frame, and a pause. -/
theorem wave_goes_on_odd :
    let requests : List Request := [.samples 4, .frame false 60, .samples 3, .frame true 3, .samples (-2)]
    let t := Tape.record ⟨2, 11, 40000, 0⟩ requests
    (2 : Int) ≠ 0 ∧ t.since = [40000, 40000, -40000, -40000, -40000, 40000] ∧
      t.wave.samples 2 = .ok ([40000, -40000], ⟨2, 11, 40000, 3⟩) ∧
      t.wave.frame true 5 = (.error .sampleOutOfRange, ⟨2, 11, 40000, 3⟩) := by
  intro requests t
  have hfrequency : (2 : Int) ≠ 0 := by decide
  have hcount : t.since.length = 6 := by decide
  obtain ⟨hsince, -, hsamples, hframe, -⟩ := wave_goes_on 11 2 40000 hfrequency requests
  rw [hcount] at hsince hsamples hframe
  refine ⟨hfrequency, hsince, hsamples 2, ?_⟩
  rcases hframe 5 (by decide) with ⟨hfits, -⟩ | ⟨-, hloud⟩
  · have hsecond := hfits 40000 (by decide)
    omega
  · exact hloud

end Chip8.SquareWave
