import Chip8.Proofs.Endings

/-!
# What is had is given back

A play has its window, renderer and texture and perhaps a sound device from the window system. What it holds is what it
was given so far (`Tended`), it uses nothing else, and gives nothing back before its end; then everything it holds is
given back in order, whether or not a last picture can be saved. Sound is not needed for the frames to be played. Main
statement: `window_releases_everything`, for every way in which the window can fail to open and the play can end.
-/

namespace Chip8.Window

variable {τ σ α : Type}

/-! ## Resources -/

/-- What a program can have from the window system and has to give back. -/
inductive Resource where
  | window
  | renderer
  | texture
  | audio (device : Nat)
  deriving DecidableEq, Repr

namespace Call

/-- What a call makes, if it succeeds. -/
def makes : Call τ → Option Resource
  | .createWindow _ _ _ _ _ _ made => if made then some .window else none
  | .createRenderer _ _ made => if made then some .renderer else none
  | .createTexture _ _ _ _ made => if made then some .texture else none
  | .openAudio _ _ _ _ device => device.map .audio
  | _ => none

/-- What a call gives back. -/
def frees : Call τ → Option Resource
  | .closeAudio device => some (.audio device)
  | .destroyTexture => some .texture
  | .destroyRenderer => some .renderer
  | .destroyWindow => some .window
  | _ => none

/-- What a call is given to work on. -/
def uses : Call τ → List Resource
  | .createRenderer .. | .destroyWindow => [.window]
  | .createTexture .. | .setDrawColour .. | .clear | .present | .destroyRenderer => [.renderer]
  | .updateTexture .. | .destroyTexture => [.texture]
  | .copyTexture => [.renderer, .texture]
  | .pauseAudio device _ | .queueAudio device _ | .closeAudio device => [.audio device]
  | _ => []

@[simp] lemma makes_stop : (stop : Call τ).makes = none := rfl

@[simp] lemma frees_stop : (stop : Call τ).frees = none := rfl

end Call

/-- Calls after which nothing is held any more. -/
structure Released (calls : List (Call τ)) : Prop where
  /-- Nothing is made twice. What was made is given back once, and nothing else is. -/
  once : ∀ r, calls.countP (·.makes = some r) ≤ 1 ∧
    calls.countP (·.frees = some r) = calls.countP (·.makes = some r)
  /-- What a call works on was made before. -/
  made : ∀ before call, before ++ [call] <+: calls → ∀ r ∈ call.uses, ∃ maker ∈ before, maker.makes = some r
  /-- No call works on what was given back. -/
  held : calls.Pairwise fun earlier later => ∀ r ∈ earlier.frees, r ∉ later.uses
  /-- The texture is given back before the renderer, and the renderer before the window. -/
  ordered : calls.Pairwise fun earlier later =>
    (earlier.frees = some .renderer → later.frees ≠ some .texture) ∧
    (earlier.frees = some .window → later.frees ≠ some .texture ∧ later.frees ≠ some .renderer)
  /-- The window system is left once, in the end. -/
  stopped : ∃ earlier, calls = earlier ++ [.stop] ∧ .stop ∉ earlier

/-- The call that gives a resource back. -/
def Resource.release : Resource → Call τ
  | .window => .destroyWindow
  | .renderer => .destroyRenderer
  | .texture => .destroyTexture
  | .audio device => .closeAudio device

namespace Resource

@[simp] lemma makes_release (r : Resource) : (r.release : Call τ).makes = none := by cases r <;> rfl

@[simp] lemma frees_release (r : Resource) : (r.release : Call τ).frees = some r := by cases r <;> rfl

@[simp] lemma uses_release (r : Resource) : (r.release : Call τ).uses = [r] := by cases r <;> rfl

lemma release_ne_stop (r : Resource) : (r.release : Call τ) ≠ .stop := by cases r <;> exact nofun

/-- A resource is another than a later one, and no texture comes after a renderer or a window, no renderer after a
window. -/
def GoesBefore (r later : Resource) : Prop :=
  r ≠ later ∧ (r = .renderer → later ≠ .texture) ∧ (r = .window → later ≠ .texture ∧ later ≠ .renderer)

end Resource

namespace Holdings

/-- Whether a resource is held. -/
def holds (h : Holdings) : Resource → Bool
  | .window => h.window
  | .renderer => h.renderer
  | .texture => h.texture
  | .audio device => h.audio = some device

/-- What is held after a call that made something, or nothing, is that and what was held before. -/
def Gains (h : Holdings) (made : Option Resource) (more : Holdings) : Prop :=
  ∀ r, (if more.holds r then 1 else 0) = (if h.holds r then 1 else 0) + if made = some r then 1 else 0

/-- What is held, in the order in which it is given back. -/
def resources (h : Holdings) : List Resource :=
  h.audio.toList.map .audio ++ [.texture, .renderer, .window].filter h.holds

/-- The last calls of a play. -/
def closing (τ : Type) (h : Holdings) : List (Call τ) := h.resources.map Resource.release ++ [.stop]

variable {h : Holdings} {r : Resource}

lemma mem_resources : r ∈ h.resources ↔ h.holds r := by
  cases r <;> simp [resources, holds]

lemma resources_pairwise (h : Holdings) : h.resources.Pairwise Resource.GoesBefore := by
  refine List.pairwise_append.2 ⟨?_, ?_, ?_⟩
  · cases h.audio <;> simp
  · exact List.Pairwise.filter _ (by simp [Resource.GoesBefore])
  · intro r hr later hlater
    obtain ⟨device, -, rfl⟩ := List.mem_map.1 hr
    refine ⟨?_, nofun, nofun⟩
    rintro rfl
    simp at hlater

lemma count_resources (h : Holdings) (r : Resource) : h.resources.count r = if h.holds r then 1 else 0 := by
  have hnodup : h.resources.Nodup := (resources_pairwise h).imp And.left
  split
  · rename_i hheld
    exact List.count_eq_one_of_mem hnodup (mem_resources.2 hheld)
  · rename_i hnot
    exact List.count_eq_zero.2 (mt mem_resources.1 hnot)

end Holdings

/-- The calls of a play that goes on: what it made is what it holds, all that its calls worked on was made before, and
nothing was given back. -/
structure Tended (held : Holdings) (calls : List (Call τ)) : Prop where
  made : ∀ r, calls.countP (·.makes = some r) = if held.holds r then 1 else 0
  used : ∀ before call, before ++ [call] <+: calls → ∀ r ∈ call.uses, ∃ maker ∈ before, maker.makes = some r
  kept : ∀ call ∈ calls, call.frees = none ∧ call ≠ .stop

namespace Tended

variable {held : Holdings} {calls : List (Call τ)}

lemma nil : Tended Holdings.nothing ([] : List (Call τ)) where
  made r := by cases r <;> rfl
  used before call hprefix := absurd (List.prefix_nil.1 hprefix) (by simp)
  kept := List.forall_mem_nil _

lemma exists_maker (h : Tended held calls) {r : Resource} (hheld : held.holds r) :
    ∃ maker ∈ calls, maker.makes = some r := by
  have hcount := h.made r
  rw [if_pos hheld] at hcount
  obtain ⟨maker, hmem, hmakes⟩ := List.countP_pos_iff.1 (by rw [hcount]; exact Nat.one_pos)
  exact ⟨maker, hmem, by simpa using hmakes⟩

/-- One more call on what is held, and what it made is held too. -/
lemma call (h : Tended held calls) {c : Call τ} {more : Holdings} (hfrees : c.frees = none) (hstop : c ≠ .stop)
    (huses : ∀ r ∈ c.uses, held.holds r) (hmakes : held.Gains c.makes more) : Tended more (calls ++ [c]) where
  made r := by
    rw [List.countP_append, h.made r, hmakes r]
    simp [List.countP_cons]
  used before call hprefix r hr := by
    obtain heq | hbefore := List.prefix_concat_iff.1 hprefix
    · obtain ⟨rfl, hlast⟩ := List.append_inj' heq rfl
      cases hlast
      exact h.exists_maker (huses r hr)
    · exact h.used before call hbefore r hr
  kept := List.forall_mem_append.2 ⟨h.kept, List.forall_mem_singleton.2 ⟨hfrees, hstop⟩⟩

/-- One more call that makes nothing. -/
lemma plain (h : Tended held calls) {c : Call τ} (hmakes : c.makes = none) (hfrees : c.frees = none) (hstop : c ≠ .stop)
    (huses : ∀ r ∈ c.uses, held.holds r) : Tended held (calls ++ [c]) :=
  h.call hfrees hstop huses fun r => by simp [hmakes]

/-- A relation between calls that only what is given back can break. -/
lemma pairwise (h : Tended held calls) {R : Call τ → Call τ → Prop}
    (hkept : ∀ earlier later, earlier.frees = none → R earlier later) (hstop : ∀ r : Resource, R r.release .stop)
    (hreleases : ∀ r later : Resource, r.GoesBefore later → R r.release later.release) :
    (calls ++ held.closing τ).Pairwise R := by
  refine List.pairwise_append.2 ⟨?_, List.pairwise_append.2 ⟨?_, List.pairwise_singleton _ _, ?_⟩, ?_⟩
  · exact List.pairwise_of_forall_mem_list fun earlier hmem later _ => hkept _ _ (h.kept earlier hmem).1
  · exact List.pairwise_map.2 (held.resources_pairwise.imp fun hbefore => hreleases _ _ hbefore)
  · intro earlier hearlier later hlater
    obtain ⟨r, -, rfl⟩ := List.mem_map.1 hearlier
    rw [List.mem_singleton.1 hlater]
    exact hstop r
  · exact fun earlier hmem later _ => hkept _ _ (h.kept earlier hmem).1

/-- Once everything that is held is given back, nothing is held any more. -/
theorem released (h : Tended held calls) : Released (calls ++ held.closing τ) where
  once r := by
    have hmakes : (held.closing τ).countP (·.makes = some r) = 0 := by
      simp [Holdings.closing, Function.comp_def]
    have hfrees : calls.countP (·.frees = some r) = 0 :=
      List.countP_eq_zero.2 fun call hmem => by simp [(h.kept call hmem).1]
    have hcloses : (held.closing τ).countP (·.frees = some r) = held.resources.count r := by
      simp [Holdings.closing, Function.comp_def, List.count, BEq.beq]
    rw [List.countP_append, List.countP_append, hmakes, hfrees, hcloses, h.made r, held.count_resources]
    split <;> simp
  made before call hprefix r hr := by
    obtain hwithin | hbeyond := List.prefix_or_prefix_of_prefix hprefix (List.prefix_append calls _)
    · exact h.used before call hwithin r hr
    · obtain heq | hbefore := List.prefix_concat_iff.1 hbeyond
      · exact h.used before call (by rw [heq]) r hr
      · -- The call is one of the last ones, so it gives back what is held.
        obtain ⟨rest, rfl⟩ := hbefore
        rw [List.append_assoc, List.prefix_append_right_inj] at hprefix
        have hmem : call ∈ held.closing τ := hprefix.subset (List.mem_append_right _ List.mem_cons_self)
        obtain hrelease | hstop := List.mem_append.1 hmem
        · obtain ⟨resource, hresource, rfl⟩ := List.mem_map.1 hrelease
          rw [Resource.uses_release, List.mem_singleton] at hr
          obtain ⟨maker, hmaker, hmakes⟩ := h.exists_maker (Holdings.mem_resources.1 hresource)
          exact ⟨maker, List.mem_append_left _ hmaker, by rw [hmakes, hr]⟩
        · rw [List.mem_singleton.1 hstop] at hr
          cases hr
  held := by
    apply h.pairwise
    · intro earlier later hfrees r hr
      rw [hfrees] at hr
      cases hr
    · exact fun _ _ _ => List.not_mem_nil
    · intro r later hbefore resource hresource
      rw [Resource.frees_release] at hresource
      rw [Resource.uses_release, List.mem_singleton, ← Option.some_inj.1 hresource]
      exact hbefore.1
  ordered := by
    apply h.pairwise
    · intro earlier later hfrees
      simp [hfrees]
    · exact fun r => by simp
    · intro r later hbefore
      simpa using hbefore.2
  stopped := by
    refine ⟨calls ++ held.resources.map Resource.release, (List.append_assoc _ _ _).symm, ?_⟩
    rw [List.mem_append, not_or]
    refine ⟨fun hmem => (h.kept _ hmem).2 rfl, fun hmem => ?_⟩
    obtain ⟨r, -, heq⟩ := List.mem_map.1 hmem
    exact r.release_ne_stop heq

end Tended

namespace Play

open CommandLine.PlayInWindow (calls)

/-! ## Plays -/

/-- A play that holds what it was given so far and gave nothing back. -/
def Keeping (held : Holdings) (p : Play τ σ) : Prop := p.holdings = held ∧ Tended held (calls p.journal.reverse)

lemma calls_noted (p : Play τ σ) (happening : Happening τ) :
    calls (p.noted happening).journal.reverse = calls p.journal.reverse ++ calls [⟨happening, p.console⟩] := by
  rw [noted, List.reverse_cons, calls, List.filterMap_append]
  rfl

lemma calls_called (p : Play τ σ) (c : Call τ) :
    calls (p.noted (.called c)).journal.reverse = calls p.journal.reverse ++ [c] := calls_noted p _

lemma calls_uncalled (p : Play τ σ) {happening : Happening τ} (hnone : ∀ c, happening ≠ .called c) :
    calls (p.noted happening).journal.reverse = calls p.journal.reverse := by
  cases happening with
  | called c => exact absurd rfl (hnone c)
  | _ => exact (calls_noted p _).trans (List.append_nil _)

variable {held : Holdings} {p : Play τ σ}

namespace Keeping

lemma uncalled (h : Keeping held p) {happening : Happening τ} (hnone : ∀ c, happening ≠ .called c) :
    Keeping held (p.noted happening) := by
  refine ⟨h.1, ?_⟩
  rw [calls_uncalled p hnone]
  exact h.2

lemma plain (h : Keeping held p) {c : Call τ} (hmakes : c.makes = none) (hfrees : c.frees = none) (hstop : c ≠ .stop)
    (huses : ∀ r ∈ c.uses, held.holds r) : Keeping held (p.noted (.called c)) := by
  refine ⟨h.1, ?_⟩
  rw [calls_called]
  exact h.2.plain hmakes hfrees hstop huses

end Keeping

/-- What a play holds is touched by the opening of the window and by its end only. -/
lemma keeping_undisturbed : Undisturbed (Keeping held : Play τ σ → Prop) where
  printed _ _ h := h.uncalled nofun
  taken _ h := h
  stored _ _ h := h
  timed _ _ h := h.uncalled nofun
  moved _ _ _ _ h := h
  queued p device _ haudio h := by
    refine h.plain rfl rfl nofun (List.forall_mem_singleton.2 ?_)
    rw [← h.1, Holdings.holds, haudio]
    exact decide_eq_true rfl
  slept _ _ h := h.plain rfl rfl nofun (List.forall_mem_nil _)

lemma keeping_call {c : Call τ} (hmakes : c.makes = none) (hfrees : c.frees = none) (hstop : c ≠ .stop)
    (huses : ∀ r ∈ c.uses, held.holds r) : Keeps (Keeping held) (call c : Action τ σ Unit) :=
  fun _ h => h.plain hmakes hfrees hstop huses

section Frames

variable (hrenderer : held.renderer = true) (htexture : held.texture = true)

include htexture in
lemma keeping_upload : Keeps (Keeping held) (upload : Action τ σ Unit) :=
  keeping_undisturbed.upload (fun _ _ h => h.plain rfl rfl nofun (List.forall_mem_singleton.2 htexture)) fun _ h => h

include hrenderer htexture in
lemma keeping_paint : Keeps (Keeping held) (paint : Action τ σ Unit) := by
  have hdraws {c : Call τ} (huses : c.uses = [.renderer]) : ∀ r ∈ c.uses, held.holds r := by
    rw [huses]
    exact List.forall_mem_singleton.2 hrenderer
  have hcopies : ∀ r ∈ (Call.copyTexture : Call τ).uses, held.holds r :=
    List.forall_mem_cons.2 ⟨hrenderer, List.forall_mem_singleton.2 htexture⟩
  refine keeps_bind (keeping_call rfl rfl nofun (hdraws rfl)) fun _ => ?_
  refine keeps_bind (keeping_call rfl rfl nofun (hdraws rfl)) fun _ => ?_
  exact keeps_bind (keeping_call rfl rfl nofun hcopies) fun _ => keeping_call rfl rfl nofun (hdraws rfl)

variable [Duration τ] (s : Host τ σ)

include hrenderer htexture in
lemma keeping_frame (lastTime : τ) (events : List Event) : Keeps (Keeping held) (frame s lastTime events) := by
  have hhandle (event : Event) : Keeps (Keeping held) (handle s event) :=
    keeping_undisturbed.handle s (fun _ _ h => h) (fun _ _ h => h) (fun _ h => h) (fun _ h => h)
      (fun _ _ h => h.uncalled nofun) event
  refine keeps_bind (keeping_undisturbed.now s) fun frameStart => ?_
  refine keeps_bind (keeps_forM events hhandle) fun _ => ?_
  refine keeps_bind (keeping_undisturbed.onConsole fun _ h => h) fun ticks => ?_
  refine keeps_bind (fun _ h => h.uncalled nofun) fun _ => keeps_bind (keeping_upload htexture) fun _ => ?_
  refine keeps_bind (keeping_paint hrenderer htexture) fun _ => keeps_bind keeping_undisturbed.queueTone fun _ => ?_
  exact keeps_bind (keeping_undisturbed.pace s frameStart) fun _ => keeps_pure _

end Frames

/-! ## Opening -/

/-- A play that keeps what it holds, and holds no texture without its renderer. -/
def Cared (p : Play τ σ) : Prop := ∃ held, Keeping held p ∧ (held.texture = true → held.renderer = true)

lemma cared_untold : Untold (Cared : Play τ σ → Prop) where
  printed p text := fun ⟨held, h, hnested⟩ => ⟨held, keeping_undisturbed.printed p text h, hnested⟩
  taken p := fun ⟨held, h, hnested⟩ => ⟨held, keeping_undisturbed.taken p h, hnested⟩
  stored p disk := fun ⟨held, h, hnested⟩ => ⟨held, keeping_undisturbed.stored p disk h, hnested⟩

/-- A call that makes something, if it does. -/
lemma Keeping.asked (h : Keeping held p) {c : Call τ} {more : Holdings} (hfrees : c.frees = none) (hstop : c ≠ .stop)
    (huses : ∀ r ∈ c.uses, held.holds r) (hmakes : held.Gains c.makes more) :
    Keeping more { p.noted (.called c) with holdings := more } := by
  refine ⟨rfl, ?_⟩
  change Tended more (calls (p.noted (.called c)).journal.reverse)
  rw [calls_called]
  exact h.2.call hfrees hstop huses hmakes

/-- Something asked of the window system, and then the rest. -/
lemma cared_asking (s : Host τ σ) (c : Bool → Call τ) (made : Bool) (what : String) (f : Holdings → Holdings)
    {next : Action τ σ Bool} (hnext : Leads (Keeping (f held)) Cared next)
    (hplain : ∀ made, (c made).frees = none ∧ c made ≠ .stop ∧ ∀ r ∈ (c made).uses, held.holds r)
    (hnested : held.texture = true → held.renderer = true) (hrefused : (c false).makes = none)
    (hmakes : held.Gains (c true).makes (f held)) :
    Leads (Keeping held) Cared (do
      call (c made)
      if !made then
        complain s what
      else
        modify fun p => { p with holdings := f p.holdings }
        next : Action τ σ Bool) := by
  intro p hp
  obtain ⟨hfrees, hstop, huses⟩ := hplain made
  cases made with
  | false =>
    have hcalled : Keeping held (p.noted (.called (c false))) := hp.plain hrefused hfrees hstop huses
    exact cared_untold.complain s what _ ⟨held, hcalled, hnested⟩
  | true =>
    have hasked := hp.asked hfrees hstop huses hmakes
    rw [← hp.1] at hasked
    exact hnext _ (by rw [← hp.1]; exact hasked)

lemma cared_openAudio (s : Host τ σ) : Leads (Keeping ⟨true, true, true, none⟩) Cared (openAudio s) := by
  intro p hp
  unfold openAudio
  cases s.platform.audio? with
  | none =>
    have hcalled := hp.plain
      (c := .openAudio SquareWave.standardRate Code.signedSixteenBits 1 audioBuffer none) rfl rfl nofun
      (List.forall_mem_nil _)
    exact keeps_bind (cared_untold.complain s _) (fun _ => keeps_pure _) _ ⟨_, hcalled, fun _ => rfl⟩
  | some device =>
    have hasked : Keeping ⟨true, true, true, some device⟩ _ :=
      hp.asked (c := .openAudio SquareWave.standardRate Code.signedSixteenBits 1 audioBuffer (some device)) rfl nofun
        (List.forall_mem_nil _) fun r => by cases r <;> simp [Holdings.holds, Call.makes]
    have hheld : ({ p.holdings with audio := some device } : Holdings) = ⟨true, true, true, some device⟩ := by
      rw [hp.1]
    rw [← hheld] at hasked
    exact ⟨_, hasked, fun _ => by rw [hheld]⟩

/-- However far the window can be opened, the play keeps what it was given. -/
lemma cared_start (s : Host τ σ) : Leads (Keeping .nothing) Cared (start s) := by
  have hlast : Leads (Keeping ⟨true, true, true, none⟩) Cared (do
      openAudio s
      bindKeys s
      print "SDL2 initialized successfully"
      return true : Action τ σ Bool) := by
    refine leads_bind (cared_openAudio s) (fun _ h => h) fun _ => ?_
    refine keeps_bind (cared_untold.bindKeys s fun _ _ h => h) fun _ => ?_
    exact keeps_bind (cared_untold.print _) fun _ => keeps_pure _
  have htexture : Leads (Keeping ⟨true, true, false, none⟩) Cared (openTexture s) := by
    refine cared_asking s (.createTexture Code.redGreenBlueAlpha Code.streaming 64 32) _ _
      (fun held => { held with texture := true }) hlast (fun _ => ⟨rfl, nofun, ?_⟩) nofun rfl fun r => ?_
    · exact List.forall_mem_singleton.2 rfl
    · cases r <;> simp [Holdings.holds, Call.makes]
  have hrenderer : Leads (Keeping ⟨true, false, false, none⟩) Cared (openRenderer s) := by
    refine cared_asking s (.createRenderer (-1) (Code.accelerated + Code.synchronised)) _ _
      (fun held => { held with renderer := true }) htexture (fun _ => ⟨rfl, nofun, ?_⟩) nofun rfl fun r => ?_
    · exact List.forall_mem_singleton.2 rfl
    · cases r <;> simp [Holdings.holds, Call.makes]
  have hwindow : Leads (Keeping .nothing) Cared (openWindow s) := by
    refine cared_asking s (.createWindow "CHIP-8" Code.centred Code.centred windowWidth windowHeight Code.shown) _ _
      (fun held => { held with window := true }) hrenderer (fun _ => ⟨rfl, nofun, List.forall_mem_nil _⟩) nofun rfl
      fun r => ?_
    cases r <;> simp [Holdings.holds, Holdings.nothing, Call.makes]
  refine cared_asking s (.start (Code.video + Code.audio + Code.events)) _ _ id hwindow
    (fun _ => ⟨rfl, nofun, List.forall_mem_nil _⟩) nofun rfl fun r => ?_
  cases r <;> simp [Holdings.holds, Call.makes]

/-! ## The end -/

/-- A call that is made only under a condition. -/
def provided (condition : Bool) (c : Call τ) : List (Call τ) := if condition then [c] else []

lemma closing_eq (held : Holdings) : held.closing τ = held.audio.toList.map .closeAudio ++
    (provided held.texture .destroyTexture ++ (provided held.renderer .destroyRenderer ++
      (provided held.window .destroyWindow ++ [.stop]))) := by
  obtain ⟨window, renderer, texture, audio⟩ := held
  cases audio <;> cases texture <;> cases renderer <;> cases window <;> rfl

/-- A play that made such calls so far. -/
def Called (made : List (Call τ)) (p : Play τ σ) : Prop := calls p.journal.reverse = made

variable {made : List (Call τ)}

lemma called_untold : Untold (Called made : Play τ σ → Prop) where
  printed p text h := (calls_uncalled p (by exact nofun)).trans h
  taken _ h := h
  stored _ _ h := h

lemma leads_call (c : Call τ) : Leads (Called made) (Called (made ++ [c])) (call c : Action τ σ Unit) := by
  intro p hp
  exact (calls_called p c).trans (congrArg (· ++ [c]) hp)

/-- A call made only under a condition, before the others. -/
lemma leads_giving {condition : Bool} {c : Call τ} {more : List (Call τ)} {next : PUnit → Action τ σ Unit}
    (hnext : ∀ made, Leads (Called made) (Called (made ++ more)) (next ⟨⟩)) (made : List (Call τ)) :
    Leads (Called made) (Called (made ++ (provided condition c ++ more)))
      (if condition then call c >>= next else next ⟨⟩) := by
  cases condition with
  | false => exact hnext made
  | true =>
    rw [provided, if_pos rfl, if_pos rfl, ← List.append_assoc]
    exact leads_bind_of_succeeds (succeeds_call c) (leads_call c) fun _ => hnext _

lemma leads_giveBack (held : Holdings) (made : List (Call τ)) : Leads (Called made)
    (Called (made ++ (provided held.texture .destroyTexture ++ (provided held.renderer .destroyRenderer ++
      (provided held.window .destroyWindow ++ [.stop]))))) (giveBack held : Action τ σ Unit) := by
  unfold giveBack
  refine leads_giving (fun made => ?_) made
  refine leads_giving (fun made => ?_) made
  refine leads_giving (fun made => ?_) made
  exact leads_bind_of_succeeds (succeeds_modify _) (keeps_modify fun _ h => h) fun _ => leads_call _

/-- The end of a play gives back what the play holds. -/
lemma called_finish {s : Host τ σ} (hsave : s.platform.save.KnowsPng) :
    Leads (fun p => p.holdings = held ∧ Called made p) (Called (made ++ held.closing τ)) (finish s) := by
  rintro p ⟨rfl, hp⟩
  have hpicture : Keeps (Called made : Play τ σ → Prop) (saveScreenshot s "exit_screenshot.png") :=
    called_untold.saveScreenshot s _
  rw [closing_eq]
  unfold finish
  rw [get_bind]
  cases p.holdings.audio with
  | none =>
    have hall : Leads _ _ (giveBack p.holdings : Action τ σ Unit) := leads_giveBack p.holdings made
    split
    · exact leads_bind_of_succeeds (succeeds_saveLast hsave) hpicture (fun _ => hall) p hp
    · exact hall p hp
  | some device =>
    have hall : Leads _ _ (_ : Action τ σ Unit) := leads_bind_of_succeeds (succeeds_call _)
      (leads_call (.closeAudio device)) fun _ => leads_giveBack p.holdings (made ++ [.closeAudio device])
    rw [List.append_assoc] at hall
    split
    · exact leads_bind_of_succeeds (succeeds_saveLast hsave) hpicture (fun _ => hall) p hp
    · exact hall p hp

/-- A play that is over, with everything given back. -/
def Returned (p : Play τ σ) : Prop := Released (calls p.journal.reverse)

lemma returned_finish {s : Host τ σ} (hsave : s.platform.save.KnowsPng) :
    Leads (Keeping held) Returned (finish s) := by
  intro p hp
  have hend : calls (ending (finish s p)).journal.reverse = _ := called_finish hsave p ⟨hp.1, rfl⟩
  rw [Returned, hend]
  exact hp.2.released

lemma keeping_greet : Keeps (Keeping held) (greet : Action τ σ Unit) := by
  have hgreeting : Keeps (Keeping held) (greeting.forM print : Action τ σ Unit) :=
    keeps_forM _ keeping_undisturbed.print
  intro p hp
  unfold greet
  rw [modify_bind, get_bind]
  cases haudio : p.holdings.audio with
  | none => exact hgreeting _ hp
  | some device =>
    have hset : Keeping held { p with running := true } := hp
    refine hgreeting _ (hset.plain (c := .pauseAudio device 0) rfl rfl nofun (List.forall_mem_singleton.2 ?_))
    rw [← hp.1, Holdings.holds, haudio]
    exact decide_eq_true rfl

variable [Duration τ] (s : Host τ σ) (hsave : s.platform.save.KnowsPng)

include hsave

/-- However far the window could be opened, and however the frames end, everything is given back. -/
lemma returned_play (events : List (List Event)) : Leads (Keeping .nothing) Returned (play s events) := by
  intro p hp
  obtain ⟨q, hstart, -⟩ := opens_start s p (by rw [hp.1]; rfl)
  obtain ⟨held, hq, hnested⟩ := (cared_start s).of_ok hp hstart
  rw [play_eq, bind_of_ok hstart, hq.1]
  split
  · rename_i htexture
    have hframes (time : τ) : Leads (Keeping held) Returned
        (finishing s (tellingFaults do frames s time events; return true)) := by
      have hkeep : Keeps (Keeping held) (do frames s time events; return true : Action τ σ Bool) :=
        keeps_bind (keeps_frames (keeping_frame (hnested htexture) htexture s) time events) fun _ => keeps_pure _
      exact leads_finishing (keeping_undisturbed.tellingFaults hkeep) (returned_finish hsave)
    refine leads_bind_of_succeeds succeeds_greet keeping_greet (fun _ => ?_) q hq
    exact leads_bind_of_succeeds (succeeds_now s) (keeping_undisturbed.now s) hframes
  · exact leads_bind_of_succeeds (succeeds_finish hsave) (returned_finish hsave) (fun _ => keeps_pure _) q hq

lemma returned_run {name : String} {program : List UInt8} (hp : Keeping .nothing p)
    (hread : p.disk.read name = .ok program) (hfit : program.length ≤ programLimit) (events : List (List Event)) :
    Returned (ending (run s name events p)) := by
  obtain ⟨q, hload⟩ := load_accepted hread hfit
  have hq := (keeping_undisturbed.load fun _ _ h => h).of_ok hp hload
  rw [run, bind_of_ok hload]
  exact returned_play s hsave events q hq

end Play

end Chip8.Window

namespace Chip8.CommandLine.PlayInWindow

open Chip8.Window (Event Platform Play Played Released Tended verdict exitStatus)

variable {τ σ : Type} [Duration τ] {arguments : List String} {disk : Disk} {name : String} {program : List UInt8}

/-- However far the window could be opened and however the frames end, everything that was had is given back in order,
and then the window system is left. -/
theorem window_releases_everything (platform : Platform τ σ) (hsave : platform.save.KnowsPng)
    (random : Nat → UInt8) (clock : σ) (events : List (List Event)) (harguments : arguments.erase "--debug" = [name])
    (hname : '\x00' ∉ name.toList) (hread : disk.read name = .ok program) (hfit : program.length ≤ 3584) :
    let finished := run platform random clock events arguments disk
    Released (calls finished.journal) ∧
      ((∀ facility, facility ≠ .audio → platform.works facility) →
        ∃ conclusion, Played ⟨Dialect.modern, random⟩ events finished.journal conclusion ∧
          finished.finish.status = exitStatus (verdict conclusion)) := by
  intro finished
  have hbegin : Play.Keeping .nothing (Play.fresh (arguments.contains "--debug") clock disk : Play τ σ) :=
    ⟨rfl, Tended.nil⟩
  obtain ⟨-, hjournal, -⟩ := run_named platform random clock events harguments hname (exists_of_read hread)
  refine ⟨?_, (run_concluded hsave random clock events harguments hname hread hfit).2⟩
  rw [hjournal]
  exact Play.returned_run ⟨⟨Dialect.modern, random⟩, platform⟩ hsave hbegin hread hfit events

/-- Without a texture the window closes at once, and a picture of it cannot be saved over the folder of its name. -/
theorem window_releases_everything_untextured :
    let platform : Platform Rat (Window.Ticking Rat) :=
      { works := (· ≠ .texture), complaint := "", keycode := fun _ => none, clock := Window.Ticking.clock }
    let disk : Disk := ⟨["work"], [(["work", "prog.ch8"], [0x12, 0x00])], [["work", "exit_screenshot.png"]], []⟩
    let finished := run platform (fun _ => 9) ⟨1000, [], [1 / 128]⟩ [] ["prog.ch8"] disk
    disk.read "prog.ch8" = .ok [0x12, 0x00] ∧ platform.save.KnowsPng ∧ Released (calls finished.journal) ∧
      [.destroyRenderer, .destroyWindow, .stop] <:+ calls finished.journal := by
  intro platform disk finished
  have hread : disk.read "prog.ch8" = .ok [0x12, 0x00] := by decide +kernel
  have harguments : ["prog.ch8"].erase "--debug" = ["prog.ch8"] := rfl
  have hsave : platform.save.KnowsPng := by
    dsimp only [platform]
    exact PictureFile.save_knowsPng
  obtain ⟨hreleased, -⟩ := window_releases_everything platform hsave (fun _ => 9) ⟨1000, [], [1 / 128]⟩ [] harguments
    (by decide) hread (by decide)
  exact ⟨hread, hsave, hreleased, by decide +kernel⟩

end Chip8.CommandLine.PlayInWindow
