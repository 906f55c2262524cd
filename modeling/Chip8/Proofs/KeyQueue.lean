import Chip8.Proofs.KeyWait

/-!
# The queue of presses

The log of a keypad session holds the codes under which keys went down since the presses were last forgotten. The
presses kept are the end of the log, and at most sixteen; polls read the log from front to back, at rising places, and
leave out what the queue had no room for. A press that was left out was outrun: at some moment sixteen later ones were
pending. To press a key that is held changes nothing, a code below zero counts keys from the end, and a code that names
no key fails and changes nothing.

Main statement: `presses_kept_in_order`, for all sequences of the keypad's commands.
-/

namespace Chip8

section Logs

variable {τ : Type}

/-- Whether a command is one of the keypad's own. -/
def Command.isKeypad : Command τ → Bool
  | .press _ | .release _ | .setKeys _ | .poll | .discard | .resetPanel => true
  | _ => false

def Command.isPoll : Command τ → Bool
  | .poll => true
  | _ => false

/-- Whether a command forgets the presses. -/
def Command.forgets : Command τ → Bool
  | .discard | .resetPanel => true
  | _ => false

/-- The keys that a list of codes names. -/
def Keypad.named (codes : List Int) : Vector Bool 16 :=
  Vector.ofFn fun key => decide ((key.val : Int) ∈ codes)

/-- The keys among some that a list of codes names and that are up. -/
def Keypad.raised (down : Vector Bool 16) (codes : List Int) (keys : List Key) : List Int :=
  (keys.filter fun key => decide ((key.val : Int) ∈ codes) && !down.get key).map fun key => (key.val : Int)

/-- The codes under which a command puts keys down that were up. -/
def Command.strokes (down : Vector Bool 16) : Command τ → List Int
  | .setKeys codes => Keypad.raised down codes (List.finRange 16)
  | command => (command.strike? down).toList

def Command.downAfter (down : Vector Bool 16) : Command τ → Vector Bool 16
  | .setKeys codes => Keypad.named codes
  | .resetPanel => Vector.replicate 16 false
  | command => command.keysAfter down

/-- Which keys are down, and the codes under which keys went down since the presses were last forgotten. -/
structure KeyLog where
  down : Vector Bool 16
  struck : List Int

def KeyLog.after (log : KeyLog) (command : Command τ) : KeyLog :=
  ⟨command.downAfter log.down, if command.forgets then [] else log.struck ++ command.strokes log.down⟩

namespace Session

/-- The log of a session that begins with all keys up. -/
def keyLog (commands : List (Command τ)) : KeyLog :=
  commands.foldl KeyLog.after ⟨Vector.replicate 16 false, []⟩

def hear (given : List Int) : Command τ × Outcome τ → List Int
  | (.poll, .ok (.number code)) => given ++ [code]
  | (command, _) => if command.forgets then [] else given

variable [Duration τ]

/-- The codes that polls gave since the presses were last forgotten. -/
def given (around : Surroundings) (commands : List (Command τ)) (c : Console τ) : List Int :=
  (commands.zip (run around commands c).1).foldl hear []

/-- At some moment since the presses were last forgotten, sixteen were pending, all of them later than the one at a
position of the log. -/
def Outrun (around : Surroundings) (commands : List (Command τ)) (c : Console τ) (position : Nat) : Prop :=
  ∃ n ≤ commands.length, (∀ command ∈ commands.drop n, command.forgets = false) ∧
    (run around (commands.take n) c).2.machine.keypad.pending.length = 16 ∧
    position + 16 < (keyLog (commands.take n)).struck.length

end Session

end Logs

namespace KeyLog

/-- How a keypad stands to a log, with the codes that were polled, their positions in the log, and the positions that
were lost. -/
structure Accounts (log : KeyLog) (k : Keypad) (given : List Int) (lost : Nat → Prop) (places : List Nat) : Prop where
  down : k.down = log.down
  room : k.pending.length ≤ 16
  isSuffix : k.pending <:+ log.struck
  rising : places.Pairwise (· < ·)
  given : List.Forall₂ (fun i code => log.struck[i]? = some code) places given
  before : ∀ i ∈ places, i + k.pending.length < log.struck.length
  skipped : ∀ i, i + k.pending.length < log.struck.length → i ∈ places ∨ lost i
  gone : ∀ i, lost i → i + k.pending.length < log.struck.length

namespace Accounts

variable {log : KeyLog} {k : Keypad} {given : List Int} {lost : Nat → Prop} {places : List Nat}

lemma start (down : Vector Bool 16) : Accounts ⟨down, []⟩ ⟨down, []⟩ [] (fun _ => False) [] where
  down := rfl
  room := Nat.zero_le _
  isSuffix := List.suffix_rfl
  rising := .nil
  given := .nil
  before := by simp
  skipped := by simp
  gone := by simp

/-- New presses leave the polled ones where they are, and a press is lost when sixteen later ones are kept. -/
lemma strike (h : log.Accounts k given lost places) (down : Vector Bool 16) (new : List Int) :
    Accounts ⟨down, log.struck ++ new⟩ ⟨down, Keypad.newest (k.pending ++ new)⟩ given
      (fun i => lost i ∨
        (Keypad.newest (k.pending ++ new)).length = 16 ∧ i + 16 < (log.struck ++ new).length) places := by
  have hcapacity : Keypad.capacity = 16 := rfl
  have hkept : (Keypad.newest (k.pending ++ new)).length = min (k.pending.length + new.length) 16 := by
    rw [Keypad.newest, List.length_drop, List.length_append]
    omega
  have hstruck : (log.struck ++ new).length = log.struck.length + new.length := List.length_append
  constructor
  case down => rfl
  case room => exact Keypad.length_newest _
  case isSuffix =>
    obtain ⟨earlier, hearlier⟩ := h.isSuffix
    have hwhole : k.pending ++ new <:+ log.struck ++ new := ⟨earlier, by rw [← hearlier, List.append_assoc]⟩
    exact (List.drop_suffix _ _).trans hwhole
  case rising => exact h.rising
  case given =>
    refine h.given.imp fun i code hcode => ?_
    have hi : i < log.struck.length := (List.getElem?_eq_some_iff.1 hcode).1
    exact (List.getElem?_append_left hi).trans hcode
  case before =>
    intro i hi
    have hbefore := h.before i hi
    dsimp only
    omega
  case skipped =>
    intro i hi
    dsimp only at hi
    by_cases hfull : (Keypad.newest (k.pending ++ new)).length = 16
    · exact .inr (.inr ⟨hfull, by omega⟩)
    · rcases h.skipped i (by omega) with htaken | hlost
      · exact .inl htaken
      · exact .inr (.inl hlost)
  case gone =>
    rintro i (hlost | ⟨hfull, hi⟩)
    · have hgone := h.gone i hlost
      dsimp only
      omega
    · dsimp only
      omega

/-- A poll takes the first of the presses that are still pending. -/
lemma poll (h : log.Accounts k given lost places) {code : Int} {rest : List Int} (hpending : k.pending = code :: rest) :
    Accounts log ⟨k.down, rest⟩ (given ++ [code]) (fun i => lost i ∨ rest.length = 16 ∧ i + 16 < log.struck.length)
      (places ++ [log.struck.length - k.pending.length]) := by
  have hroom := h.room
  have hsuffix := h.isSuffix
  have hshort := h.isSuffix.length_le
  rw [hpending] at hroom hsuffix hshort
  rw [List.length_cons] at hroom hshort
  have hplace : log.struck.length - k.pending.length + rest.length + 1 = log.struck.length := by
    rw [hpending, List.length_cons]
    omega
  have hbefore : ∀ i ∈ places, i < log.struck.length - k.pending.length := by
    intro i hi
    have hi := h.before i hi
    omega
  constructor
  case down => exact h.down
  case room =>
    dsimp only
    omega
  case isSuffix => exact (List.suffix_cons code rest).trans hsuffix
  case rising =>
    rw [List.pairwise_append]
    refine ⟨h.rising, List.pairwise_singleton _ _, ?_⟩
    intro i hi j hj
    rw [List.mem_singleton.1 hj]
    exact hbefore i hi
  case given =>
    obtain ⟨earlier, hearlier⟩ := hsuffix
    have hlength : log.struck.length - k.pending.length = earlier.length := by
      rw [hpending, ← hearlier, List.length_append, Nat.add_sub_cancel]
    have hcode : log.struck[log.struck.length - k.pending.length]? = some code := by
      rw [hlength, ← hearlier, List.getElem?_append_right (Nat.le_refl _), Nat.sub_self]
      rfl
    exact List.rel_append h.given (.cons hcode .nil)
  case before =>
    intro i hi
    dsimp only
    rcases List.mem_append.1 hi with hearlier | hlast
    · have hi := hbefore i hearlier
      omega
    · rw [List.mem_singleton.1 hlast]
      omega
  case skipped =>
    intro i hi
    dsimp only at hi
    by_cases hlast : i = log.struck.length - k.pending.length
    · exact .inl (by simp [hlast])
    · rcases h.skipped i (by omega) with htaken | hlost
      · exact .inl (List.mem_append_left _ htaken)
      · exact .inr (.inl hlost)
  case gone =>
    rintro i (hlost | ⟨hfull, -⟩)
    · have hgone := h.gone i hlost
      dsimp only
      omega
    · omega

lemma congr (h : log.Accounts k given lost places) {lost' : Nat → Prop} (hsame : ∀ i, lost' i ↔ lost i) :
    log.Accounts k given lost' places := by
  have heq : lost' = lost := funext fun i => propext (hsame i)
  rw [heq]
  exact h

/-- No press is pending exactly if every press of the log was polled or lost. -/
lemma pending_eq_nil_iff (h : log.Accounts k given lost places) :
    k.pending = [] ↔ ∀ i < log.struck.length, i ∈ places ∨ lost i := by
  constructor
  · intro hnone i hi
    apply h.skipped
    rw [hnone]
    exact hi
  · intro hall
    have hshort := h.isSuffix.length_le
    by_contra hsome
    have hpositive := List.length_pos_iff.2 hsome
    rcases hall (log.struck.length - k.pending.length) (by omega) with htaken | hlost
    · have hbefore := h.before _ htaken
      omega
    · have hgone := h.gone _ hlost
      omega

end Accounts

end KeyLog

section Machines

variable {m : Machine} {down : Vector Bool 16} {presses : List Int}

lemma leads_pressKey (code : Int) :
    Leads (fun m => m.keypad = ⟨down, Keypad.newest presses⟩)
      (fun m => m.keypad = ⟨Keypad.moved down code true,
        Keypad.newest (presses ++ (Keypad.strike? down code).toList)⟩) (Action.pressKey code) := by
  intro m hm
  rw [Action.pressKey_run]
  cases hslot : slot? 16 code with
  | none =>
    rw [Keypad.moved_of_no_key hslot, Keypad.strike?_of_no_key hslot, Option.toList_none, List.append_nil]
    exact hm
  | some key =>
    change m.keypad.press key code = _
    rw [hm, Keypad.press_newest hslot]

lemma leads_releaseKey (code : Int) :
    Leads (fun m => m.keypad = ⟨down, Keypad.newest presses⟩)
      (fun m => m.keypad = ⟨Keypad.moved down code false, Keypad.newest presses⟩) (Action.releaseKey code) := by
  intro m hm
  rw [Action.releaseKey_run]
  cases hslot : slot? 16 code with
  | none =>
    rw [Keypad.moved_of_no_key hslot]
    exact hm
  | some key =>
    change m.keypad.release key = _
    rw [hm, Keypad.moved_of_key hslot]
    rfl

namespace Keypad

variable {codes : List Int} {key : Key}

lemma raised_singleton : raised down codes [key] =
    if (key.val : Int) ∈ codes then (strike? down key.val).toList else [] := by
  have hslot : slot? 16 (key.val : Int) = some key := slot?_val key
  by_cases hnamed : (key.val : Int) ∈ codes
  · cases hdown : down.get key with
    | true => simp [raised, hnamed, hdown, strike?_of_down hslot hdown]
    | false => simp [raised, hnamed, hdown, strike?_of_up hslot hdown]
  · simp [raised, hnamed]

lemma raised_append (earlier later : List Key) :
    raised down codes (earlier ++ later) = raised down codes earlier ++ raised down codes later := by
  simp only [raised, List.filter_append, List.map_append]

lemma raised_put {keys : List Key} (hkey : key ∉ keys) (held : Bool) :
    raised (put down key held) codes keys = raised down codes keys := by
  unfold raised
  congr 1
  apply List.filter_congr
  intro other hother
  have hne : key ≠ other := fun heq => hkey (heq ▸ hother)
  rw [get_put, if_neg hne]

/-- Keys put one after the other where a list of codes wants them. -/
def placed (codes : List Int) (keys : List Key) (down : Vector Bool 16) : Vector Bool 16 :=
  keys.foldl (fun down key => put down key (decide ((key.val : Int) ∈ codes))) down

lemma get_placed (codes : List Int) (keys : List Key) (down : Vector Bool 16) (key : Key) :
    (placed codes keys down).get key = if key ∈ keys then decide ((key.val : Int) ∈ codes) else down.get key := by
  induction keys generalizing down with
  | nil => rfl
  | cons first rest ih =>
    change (placed codes rest (put down first _)).get key = _
    rw [ih, get_put]
    by_cases hrest : key ∈ rest
    · simp [hrest]
    · by_cases hfirst : first = key
      · simp [hfirst]
      · simp [hrest, hfirst, Ne.symm hfirst]

lemma placed_finRange (codes : List Int) (down : Vector Bool 16) :
    placed codes (List.finRange 16) down = named codes := by
  apply Vector.ext
  intro i hi
  have hget := get_placed codes (List.finRange 16) down ⟨i, hi⟩
  rw [if_pos (List.mem_finRange _)] at hget
  rw [named, Vector.getElem_ofFn]
  exact hget

end Keypad

/-- The machine with another keypad, after presses under the given codes were traced. -/
def Machine.rekeyed (m : Machine) (k : Keypad) (struck : List Int) : Machine :=
  { m with
    keypad := k
    reports := if m.tracing then (struck.map Report.keyPressed).reverse ++ m.reports else m.reports }

lemma Machine.rekeyed_nil (m : Machine) (k : Keypad) : m.rekeyed k [] = { m with keypad := k } := by
  simp [rekeyed]

lemma Machine.rekeyed_rekeyed (m : Machine) (k k' : Keypad) (struck struck' : List Int) :
    (m.rekeyed k struck).rekeyed k' struck' = m.rekeyed k' (struck ++ struck') := by
  cases htracing : m.tracing <;> simp [rekeyed, htracing]

lemma Machine.pressed_eq_rekeyed (m : Machine) {key : Key} {code : Int} (hslot : slot? 16 code = some key) :
    m.pressed key code = m.rekeyed (m.keypad.press key code) (Keypad.strike? m.keypad.down code).toList := by
  cases hheld : m.keypad.down.get key with
  | true => simp [pressed, rekeyed, Keypad.strike?_of_down hslot hheld, hheld]
  | false => simp [pressed, rekeyed, Keypad.strike?_of_up hslot hheld, hheld]

/-- One key put where a list of codes wants it. -/
lemma placeKey_run (codes : List Int) (key : Key) (hm : m.keypad = ⟨down, Keypad.newest presses⟩) :
    (if (key.val : Int) ∈ codes then Action.pressKey key.val else Action.releaseKey key.val) m =
      .ok () (m.rekeyed ⟨put down key (decide ((key.val : Int) ∈ codes)),
        Keypad.newest (presses ++ Keypad.raised down codes [key])⟩ (Keypad.raised down codes [key])) := by
  have hslot : slot? 16 (key.val : Int) = some key := slot?_val key
  by_cases hnamed : (key.val : Int) ∈ codes
  · have hpress : m.keypad.press key key.val = ⟨put down key true,
        Keypad.newest (presses ++ (Keypad.strike? down key.val).toList)⟩ := by
      rw [hm, Keypad.press_newest hslot, Keypad.moved_of_key hslot]
    rw [if_pos hnamed, Action.pressKey_run, hslot, Keypad.raised_singleton, if_pos hnamed, decide_eq_true hnamed]
    dsimp only
    rw [m.pressed_eq_rekeyed hslot, hpress, hm]
  · have hrelease : m.keypad.release key = ⟨put down key false, Keypad.newest presses⟩ := by
      rw [hm]
      rfl
    rw [if_neg hnamed, Action.releaseKey_run, hslot, Keypad.raised_singleton, if_neg hnamed, decide_eq_false hnamed,
      List.append_nil, Machine.rekeyed_nil, ← hrelease]
    rfl

/-- Putting keys where a list of codes wants them counts the presses of those that were up. -/
lemma forM_placeKey_run (codes : List Int) (keys : List Key) (hnodup : keys.Nodup)
    (hm : m.keypad = ⟨down, Keypad.newest presses⟩) :
    (keys.forM fun key =>
        if (key.val : Int) ∈ codes then Action.pressKey key.val else Action.releaseKey key.val) m =
      .ok () (m.rekeyed ⟨Keypad.placed codes keys down,
        Keypad.newest (presses ++ Keypad.raised down codes keys)⟩ (Keypad.raised down codes keys)) := by
  induction keys generalizing m down presses with
  | nil =>
    have hnone : Keypad.raised down codes [] = [] := rfl
    rw [hnone, Machine.rekeyed_nil, List.append_nil, Keypad.placed, List.foldl_nil, ← hm]
    rfl
  | cons key rest ih =>
    have hrest := List.nodup_cons.1 hnodup
    have hsplit : Keypad.raised down codes (key :: rest) =
        Keypad.raised down codes [key] ++ Keypad.raised down codes rest := Keypad.raised_append [key] rest
    refine (bind_of_ok (placeKey_run codes key hm)).trans ?_
    refine (ih hrest.2 rfl).trans ?_
    rw [Machine.rekeyed_rekeyed, Keypad.raised_put hrest.1, hsplit, List.append_assoc]
    rfl

/-- All keys put where a list of codes wants them. -/
lemma setKeys_run (codes : List Int) (hm : m.keypad = ⟨down, Keypad.newest presses⟩) :
    Action.setKeys codes m = .ok () (m.rekeyed ⟨Keypad.named codes,
      Keypad.newest (presses ++ Keypad.raised down codes (List.finRange 16))⟩
      (Keypad.raised down codes (List.finRange 16))) := by
  rw [Action.setKeys, forM_placeKey_run codes (List.finRange 16) (List.nodup_finRange 16) hm, Keypad.placed_finRange]

lemma leads_setKeys (codes : List Int) :
    Leads (fun m => m.keypad = ⟨down, Keypad.newest presses⟩)
      (fun m => m.keypad = ⟨Keypad.named codes,
        Keypad.newest (presses ++ Keypad.raised down codes (List.finRange 16))⟩) (Action.setKeys codes) := by
  intro m hm
  rw [setKeys_run codes hm]
  rfl

end Machines

section Sessions

variable {τ : Type} [Duration τ] {around : Surroundings} {down : Vector Bool 16} {presses : List Int}

lemma leads_keypad (around : Surroundings) {command : Command τ} (hkeypad : command.isKeypad)
    (hpoll : command.isPoll = false) :
    Leads (fun c : Console τ => c.machine.keypad = ⟨down, Keypad.newest presses⟩)
      (fun c => c.machine.keypad = ⟨command.downAfter down,
        if command.forgets then [] else Keypad.newest (presses ++ command.strokes down)⟩)
      (Session.perform around command) := by
  cases command with
  | press code => exact leads_map _ (leads_onMachine (leads_pressKey code))
  | release code =>
    have hnone : presses ++ (Command.release code : Command τ).strokes down = presses := List.append_nil presses
    rw [hnone]
    exact leads_map _ (leads_onMachine (leads_releaseKey code))
  | setKeys codes => exact leads_map _ (leads_onMachine (leads_setKeys codes))
  | discard =>
    intro c hc
    change c.machine.keypad.discard = _
    rw [hc]
    rfl
  | resetPanel => exact fun _ _ => rfl
  | poll => cases hpoll
  | _ => cases hkeypad

lemma answer_poll (around : Surroundings) (c : Console τ) :
    Session.answer around .poll c =
      match c.machine.keypad.pending with
      | [] => (.ok .nothing, c)
      | code :: rest =>
        (.ok (.number code), { c with machine := { c.machine with keypad := ⟨c.machine.keypad.down, rest⟩ } }) := by
  have hpoll : Console.onMachine Action.pollKey c =
      .ok c.machine.keypad.poll.1 { c with machine := { c.machine with keypad := c.machine.keypad.poll.2 } } := rfl
  rw [Session.answer, Session.perform, bind_of_ok hpoll]
  unfold Keypad.poll
  cases c.machine.keypad.pending with
  | nil => rfl
  | cons code rest => rfl

variable {commands : List (Command τ)} {c : Console τ}

omit [Duration τ] in
lemma keyLog_concat (commands : List (Command τ)) (command : Command τ) :
    Session.keyLog (commands ++ [command]) = (Session.keyLog commands).after command := by
  rw [Session.keyLog, List.foldl_append]
  rfl

lemma given_concat (around : Surroundings) (commands : List (Command τ)) (command : Command τ) (c : Console τ) :
    Session.given around (commands ++ [command]) c =
      Session.hear (Session.given around commands c)
        (command, (Session.answer around command (Session.run around commands c).2).1) := by
  have hlength : (Session.run around commands c).1.length = _ := length_outcomes commands c
  rw [Session.given, run_append, List.zip_append hlength.symm, List.foldl_append]
  rfl

/-- The presses that a command loses, besides those that were lost before, are lost at its end. -/
lemma outrun_concat (around : Surroundings) (commands : List (Command τ)) (c : Console τ) {command : Command τ}
    (hforgets : command.forgets = false) (i : Nat) :
    Session.Outrun around (commands ++ [command]) c i ↔ Session.Outrun around commands c i ∨
      ((Session.run around (commands ++ [command]) c).2.machine.keypad.pending.length = 16 ∧
        i + 16 < (Session.keyLog (commands ++ [command])).struck.length) := by
  constructor
  · rintro ⟨n, hn, hsince, hfull, hlater⟩
    by_cases hlast : n ≤ commands.length
    · rw [List.drop_append_of_le_length hlast] at hsince
      rw [List.take_append_of_le_length hlast] at hfull hlater
      exact .inl ⟨n, hlast, fun command hmem => hsince command (List.mem_append_left _ hmem), hfull, hlater⟩
    · rw [List.take_of_length_le (by simp; omega)] at hfull hlater
      exact .inr ⟨hfull, hlater⟩
  · rintro (⟨n, hn, hsince, hfull, hlater⟩ | ⟨hfull, hlater⟩)
    · refine ⟨n, by simp; omega, ?_, ?_, ?_⟩
      · rw [List.drop_append_of_le_length hn]
        intro other hmem
        rcases List.mem_append.1 hmem with hearlier | hlast
        · exact hsince other hearlier
        · rw [List.mem_singleton.1 hlast]
          exact hforgets
      · rwa [List.take_append_of_le_length hn]
      · rwa [List.take_append_of_le_length hn]
    · refine ⟨(commands ++ [command]).length, Nat.le_refl _, by simp, ?_, ?_⟩
      · rwa [List.take_length]
      · rwa [List.take_length]

lemma not_outrun_of_forgets {command : Command τ} (hforgets : command.forgets)
    (hpending : (Session.run around (commands ++ [command]) c).2.machine.keypad.pending = []) (i : Nat) :
    ¬Session.Outrun around (commands ++ [command]) c i := by
  rintro ⟨n, hn, hsince, hfull, -⟩
  by_cases hlast : n ≤ commands.length
  · rw [List.drop_append_of_le_length hlast] at hsince
    have hkeeps := hsince command (by simp)
    rw [hforgets] at hkeeps
    cases hkeeps
  · rw [List.take_of_length_le (by simp; omega), hpending] at hfull
    cases hfull

/-- The keypad after a session accounts for the log of the session. -/
def Session.Accounted (around : Surroundings) (commands : List (Command τ)) (c : Console τ) (places : List Nat) :
    Prop :=
  (keyLog commands).Accounts (run around commands c).2.machine.keypad (given around commands c)
    (Outrun around commands c) places

lemma accounted_nil (around : Surroundings) (hc : c.machine.keypad = Keypad.idle) :
    Session.Accounted around [] c [] := by
  have hnone (i : Nat) : Session.Outrun around [] c i ↔ False := by
    refine iff_false_intro ?_
    rintro ⟨n, -, -, hfull, -⟩
    rw [List.take_nil] at hfull
    change c.machine.keypad.pending.length = 16 at hfull
    rw [hc] at hfull
    cases hfull
  have hstart := (KeyLog.Accounts.start (Vector.replicate 16 false)).congr hnone
  rw [← Keypad.idle, ← hc] at hstart
  exact hstart

section Commands

variable {command : Command τ} {places : List Nat}

lemma keypad_concat (h : Session.Accounted around commands c places) (hkeypad : command.isKeypad)
    (hpoll : command.isPoll = false) :
    (Session.run around (commands ++ [command]) c).2.machine.keypad =
      ⟨command.downAfter (Session.keyLog commands).down,
        if command.forgets then []
        else Keypad.newest ((Session.run around commands c).2.machine.keypad.pending ++
          command.strokes (Session.keyLog commands).down)⟩ := by
  have hbefore : (Session.run around commands c).2.machine.keypad = ⟨(Session.keyLog commands).down,
      Keypad.newest (Session.run around commands c).2.machine.keypad.pending⟩ := by
    rw [Keypad.newest_of_length_le h.room, ← h.down]
  have hafter := leads_keypad around hkeypad hpoll (Session.run around commands c).2 hbefore
  rw [← answer_eq_ending] at hafter
  rw [run_append]
  exact hafter

lemma accounted_forget (h : Session.Accounted around commands c places) (hkeypad : command.isKeypad)
    (hforgets : command.forgets) : Session.Accounted around (commands ++ [command]) c [] := by
  have hpoll : command.isPoll = false := by
    cases command with
    | poll => cases hforgets
    | _ => rfl
  have hafter := keypad_concat h hkeypad hpoll
  rw [if_pos hforgets] at hafter
  have hgiven : Session.given around (commands ++ [command]) c = [] := by
    rw [given_concat]
    cases command with
    | discard | resetPanel => rfl
    | _ => cases hforgets
  have hnone (i : Nat) : Session.Outrun around (commands ++ [command]) c i ↔ False :=
    iff_false_intro (not_outrun_of_forgets hforgets (by rw [hafter]) i)
  rw [Session.Accounted, keyLog_concat, KeyLog.after, if_pos hforgets, hafter, hgiven]
  exact (KeyLog.Accounts.start _).congr hnone

lemma accounted_poll (h : Session.Accounted around commands c places) :
    ∃ places, Session.Accounted around (commands ++ [.poll]) c places := by
  have hlost := outrun_concat around commands c (show (Command.poll : Command τ).forgets = false from rfl)
  have hanswer := answer_poll around (Session.run around commands c).2
  have hlog : (Session.keyLog commands).after (.poll : Command τ) = Session.keyLog commands := by
    change KeyLog.mk _ ((Session.keyLog commands).struck ++ []) = _
    rw [List.append_nil]
    rfl
  have hend : (Session.run around (commands ++ [.poll]) c).2 =
      (Session.answer around .poll (Session.run around commands c).2).2 := by
    rw [run_append]
    rfl
  cases hpending : (Session.run around commands c).2.machine.keypad.pending with
  | nil =>
    rw [hpending] at hanswer
    refine ⟨places, ?_⟩
    rw [Session.Accounted, keyLog_concat, hlog, given_concat, hend, hanswer]
    refine KeyLog.Accounts.congr h fun i => ?_
    rw [hlost, hend, hanswer, hpending]
    simp
  | cons code rest =>
    rw [hpending] at hanswer
    refine ⟨places ++ [(Session.keyLog commands).struck.length -
      (Session.run around commands c).2.machine.keypad.pending.length], ?_⟩
    rw [keyLog_concat, hlog, hend, hanswer] at hlost
    rw [Session.Accounted, keyLog_concat, hlog, given_concat, hend, hanswer]
    exact (h.poll hpending).congr hlost

lemma accounted_strike (h : Session.Accounted around commands c places) (hkeypad : command.isKeypad)
    (hpoll : command.isPoll = false) (hforgets : command.forgets = false) :
    Session.Accounted around (commands ++ [command]) c places := by
  have hafter := keypad_concat h hkeypad hpoll
  rw [hforgets] at hafter
  have hgiven : Session.given around (commands ++ [command]) c = Session.given around commands c := by
    rw [given_concat]
    cases command with
    | poll => cases hpoll
    | discard | resetPanel => cases hforgets
    | _ => rfl
  have hlost := outrun_concat around commands c hforgets
  rw [keyLog_concat, KeyLog.after, hforgets] at hlost
  rw [hafter] at hlost
  rw [Session.Accounted, keyLog_concat, KeyLog.after, hforgets, hafter, hgiven]
  exact (h.strike _ _).congr hlost

end Commands

/-- At every moment of a keypad session, the presses kept account for the log. -/
lemma exists_accounted (around : Surroundings) (commands : List (Command τ))
    (hkeypad : ∀ command ∈ commands, command.isKeypad) {c : Console τ} (hc : c.machine.keypad = Keypad.idle) :
    ∃ places, Session.Accounted around commands c places := by
  induction commands using List.reverseRecOn with
  | nil => exact ⟨[], accounted_nil around hc⟩
  | append_singleton commands command ih =>
    obtain ⟨places, hplaces⟩ := ih fun other hmem => hkeypad other (List.mem_append_left _ hmem)
    have hcommand := hkeypad command (by simp)
    cases hforgets : command.forgets with
    | true => exact ⟨[], accounted_forget hplaces hcommand hforgets⟩
    | false =>
      cases hpoll : command.isPoll with
      | true =>
        cases command with
        | poll => exact accounted_poll hplaces
        | _ => cases hpoll
      | false => exact ⟨places, accounted_strike hplaces hcommand hpoll hforgets⟩

section Codes

variable {code : Int} {key : Key}

lemma exists_slot (hlow : -16 ≤ code) (hhigh : code < 16) :
    ∃ key : Key, slot? 16 code = some key ∧ (key.val : Int) = if code < 0 then code + 16 else code := by
  unfold slot?
  by_cases hneg : code < 0
  · rw [dif_neg (by omega), dif_pos ⟨by omega, hneg⟩, if_pos hneg]
    refine ⟨_, rfl, ?_⟩
    dsimp only
    omega
  · rw [dif_pos ⟨by omega, by omega⟩, if_neg hneg]
    refine ⟨_, rfl, ?_⟩
    dsimp only
    omega

lemma slot?_eq_none (hcode : code < -16 ∨ 16 ≤ code) : slot? 16 code = none := by
  unfold slot?
  rw [dif_neg (by omega), dif_neg (by omega)]

lemma answer_press (around : Surroundings) (code : Int) (c : Console τ) :
    Session.answer around (.press code) c =
      match slot? 16 code with
      | some key => (.ok .nothing, { c with machine := c.machine.pressed key code })
      | none => (.error .noSuchSlot, c) := by
  have hpress : Action.pressKey code c.machine = _ := Action.pressKey_run code
  rw [Session.answer, Session.perform, Session.silently]
  cases hslot : slot? 16 code with
  | some key =>
    rw [hslot] at hpress
    rw [bind_of_ok (onMachine_of_ok hpress)]
    rfl
  | none =>
    rw [hslot] at hpress
    rw [bind_of_error (onMachine_of_error hpress)]

lemma answer_release (around : Surroundings) (code : Int) (c : Console τ) :
    Session.answer around (.release code) c =
      match slot? 16 code with
      | some key => (.ok .nothing, { c with machine := c.machine.released key })
      | none => (.error .noSuchSlot, c) := by
  have hrelease : Action.releaseKey code c.machine = _ := Action.releaseKey_run code
  rw [Session.answer, Session.perform, Session.silently]
  cases hslot : slot? 16 code with
  | some key =>
    rw [hslot] at hrelease
    rw [bind_of_ok (onMachine_of_ok hrelease)]
    rfl
  | none =>
    rw [hslot] at hrelease
    rw [bind_of_error (onMachine_of_error hrelease)]

lemma Machine.pressed_of_held {m : Machine} (hheld : m.keypad.down.get key = true) (code : Int) :
    m.pressed key code = m := by
  have hkeypad : m.keypad.press key code = m.keypad := if_pos hheld
  have hquiet : ¬(m.keypad.down.get key = false ∧ m.tracing = true) := by simp [hheld]
  rw [Machine.pressed, hkeypad, if_neg hquiet]

lemma Keypad.down_press (k : Keypad) (key : Key) (code : Int) : (k.press key code).down = put k.down key true := by
  unfold Keypad.press
  split
  · rename_i hheld
    have hget : k.down.get key = true := hheld
    rw [← hget, put_get]
  · rfl

end Codes

/-- The presses kept are the end of the log. Polls read it in order, skip only what was outrun, and find nothing exactly
if nothing is left of it. -/
theorem presses_kept_in_order (around : Surroundings) (rate : Option τ) (commands : List (Command τ))
    (hkeypad : ∀ command ∈ commands, command.isKeypad) :
    let fresh : Console τ := Console.fresh rate
    let c := (Session.run around commands fresh).2
    let struck := (Session.keyLog commands).struck
    let pending := c.machine.keypad.pending
    pending <:+ struck ∧ pending.length ≤ 16 ∧
    (∃ places : List Nat, places.Pairwise (· < ·) ∧
      List.Forall₂ (fun i code => struck[i]? = some code) places (Session.given around commands fresh) ∧
      (∀ i ∈ places, i + pending.length < struck.length) ∧
      (∀ i, i + pending.length < struck.length → i ∈ places ∨ Session.Outrun around commands fresh i) ∧
      ((Session.answer around .poll c).1 = .ok .nothing ↔
        ∀ i < struck.length, i ∈ places ∨ Session.Outrun around commands fresh i)) ∧
    (∀ code key, slot? 16 code = some key → c.machine.keypad.down.get key = true →
      Session.answer around (.press code) c = (.ok .nothing, c)) ∧
    (∀ code, -16 ≤ code → code < 16 → ∃ key : Key, (key.val : Int) = (if code < 0 then code + 16 else code) ∧
      (Session.answer around (.press code) c).1 = .ok .nothing ∧
      (Session.answer around (.press code) c).2.machine.keypad.down = put c.machine.keypad.down key true ∧
      (Session.answer around (.release code) c).1 = .ok .nothing ∧
      (Session.answer around (.release code) c).2.machine.keypad = ⟨put c.machine.keypad.down key false, pending⟩) ∧
    (∀ code, code < -16 ∨ 16 ≤ code →
      Session.answer around (.press code) c = (.error .noSuchSlot, c) ∧
      Session.answer around (.release code) c = (.error .noSuchSlot, c)) := by
  intro fresh c struck pending
  obtain ⟨places, hplaces⟩ : ∃ places, Session.Accounted around commands fresh places :=
    exists_accounted around commands hkeypad rfl
  refine ⟨hplaces.isSuffix, hplaces.room, ⟨places, hplaces.rising, hplaces.given, hplaces.before, hplaces.skipped, ?_⟩,
    ?_, ?_, ?_⟩
  · rw [answer_poll, ← hplaces.pending_eq_nil_iff]
    change _ ↔ c.machine.keypad.pending = []
    cases c.machine.keypad.pending with
    | nil => simp
    | cons code rest => simp
  · intro code key hslot hheld
    rw [answer_press, hslot]
    dsimp only
    rw [Machine.pressed_of_held hheld]
  · intro code hlow hhigh
    obtain ⟨key, hslot, hkey⟩ := exists_slot hlow hhigh
    rw [answer_press, answer_release, hslot]
    exact ⟨key, hkey, rfl, Keypad.down_press _ _ _, rfl, rfl⟩
  · intro code hcode
    rw [answer_press, answer_release, slot?_eq_none hcode]
    exact ⟨rfl, rfl⟩

/-- All keys go down at once, and one of them once more, under a code that counts from the end. -/
theorem presses_kept_in_order_full :
    let around : Surroundings := ⟨Dialect.modern, fun _ => 0⟩
    let commands : List (Command Rat) :=
      [.press 4, .discard, .release 4, .setKeys [15, 14, 13, 12, 11, 10, 9, 8, 7, 6, 5, 4, 3, 2, 1, 0], .release 3,
        .press (-13), .poll]
    let fresh : Console Rat := Console.fresh none
    let struck : List Int := [0, 1, 2, 3, 4, 5, 6, 7, 8, 9, 10, 11, 12, 13, 14, 15, -13]
    (∀ command ∈ commands, command.isKeypad) ∧ (Session.keyLog commands).struck = struck ∧
    Session.given around commands fresh = [1] ∧
    ∃ places : List Nat, places.Pairwise (· < ·) ∧ List.Forall₂ (fun i code => struck[i]? = some code) places [1] ∧
      (0 ∈ places ∨ Session.Outrun around commands fresh 0) := by
  intro around commands fresh struck
  have hkeypad : ∀ command ∈ commands, command.isKeypad := by simp [commands, Command.isKeypad]
  have hstruck : (Session.keyLog commands).struck = struck := by decide +kernel
  have hgiven : Session.given around commands fresh = [1] := by decide +kernel
  have hpending : (Session.run around commands fresh).2.machine.keypad.pending.length = 15 := by decide +kernel
  obtain ⟨-, -, ⟨places, hrising, hplaces, -, hskipped, -⟩, -⟩ := presses_kept_in_order around none commands hkeypad
  rw [hstruck, hgiven] at hplaces
  rw [hstruck, hpending] at hskipped
  exact ⟨hkeypad, hstruck, hgiven, places, hrising, hplaces, hskipped 0 (by decide)⟩

end Sessions

end Chip8
