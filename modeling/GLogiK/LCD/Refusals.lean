import GLogiK.LCD.Locks

/-!
# Refused calls

A refused call leaves the frame counter where it is, and the next call counts on. After enough calls
the counter, which has 16 bits, is 0 again: the frames of the current plugin do not seem to be over,
and it is drawn although it is not enabled.
-/

namespace GLogiK

open Rotation

namespace LCDView

variable {n : ℕ} {maxFrames : ℕ → UInt16} {enabled : ℕ → Bool} {v : LCDView} {key : Bool}

/-- Only enabled plugins are shown. -/
def OnlyEnabled (enabled : ℕ → Bool) (shown : List (Option ℕ)) : Prop :=
  ∀ i, some i ∈ shown → enabled i = true

/-- The state after a refused call. -/
structure Refusing (n : ℕ) (maxFrames : ℕ → UInt16) (enabled : ℕ → Bool) (v : LCDView) : Prop where
  current_lt : v.current < n
  disabled : enabled v.current = false
  framesOver : maxFrames v.current ≤ v.counter
  stuck : v.locked = true ∨ ∀ j < n, enabled j = false

lemma onlyEnabled_cons {o : Option ℕ} {shown : List (Option ℕ)} :
    OnlyEnabled enabled (o :: shown) ↔
      (∀ i, o = some i → enabled i = true) ∧ OnlyEnabled enabled shown := by
  constructor
  · intro h
    exact ⟨fun i hi => h i (hi ▸ List.mem_cons_self), fun i hi => h i (List.mem_cons_of_mem _ hi)⟩
  · rintro ⟨hfirst, hrest⟩ i hi
    rcases List.mem_cons.mp hi with heq | hmem
    · exact hfirst i heq.symm
    · exact hrest i hmem

lemma step_of_lt (hmore : v.counter + 1 < maxFrames v.current) :
    v.step n maxFrames enabled key = (some v.current, v.count key) :=
  if_pos hmore

/-- When the frames are over the follower is shown. -/
lemma step_of_follower {j : ℕ} (hover : maxFrames v.current ≤ v.counter + 1)
    (h : (v.count key).follower n enabled = some j) :
    v.step n maxFrames enabled key =
      (some j, { v.count key with current := j, counter := 0 }) := by
  rw [step, h]
  exact if_neg (UInt16.not_lt.mpr hover)

lemma step_of_refused (h : (v.step n maxFrames enabled key).1 = none) :
    v.step n maxFrames enabled key = (none, v.count key) := by
  rw [step] at h ⊢
  split_ifs at h ⊢
  rcases hfollower : (v.count key).follower n enabled with _ | j
  · rfl
  · rw [hfollower] at h
    cases h

/-- An enabled plugin is only followed by enabled ones. -/
lemma onlyEnabled_steps (hv : v.current < n) (henabled : enabled v.current = true)
    (keys : List Bool) : OnlyEnabled enabled (v.steps n maxFrames enabled keys).1 := by
  induction keys generalizing v with
  | nil => exact fun i hi => absurd hi List.not_mem_nil
  | cons key keys ih =>
    rw [steps, onlyEnabled_cons]
    rcases hfollower : (v.count key).follower n enabled with _ | j
    · have hdisabled := ((@follower_eq_none_iff n enabled (v.count key) hv).mp hfollower).1
      exact absurd henabled (by rw [show enabled v.current = false from hdisabled]; decide)
    · obtain ⟨hj, hjenabled⟩ := @follower_spec n enabled (v.count key) j hv hfollower
      rw [step, hfollower]
      split_ifs
      · exact ⟨fun i hi => Option.some_inj.mp hi ▸ henabled, ih hv henabled⟩
      · exact ⟨fun i hi => Option.some_inj.mp hi ▸ hjenabled, ih hj hjenabled⟩

/-- A refused call leaves such a state. -/
lemma refusing_of_step (hv : v.current < n) (h : (v.step n maxFrames enabled key).1 = none) :
    Refusing n maxFrames enabled (v.step n maxFrames enabled key).2 := by
  obtain ⟨hover, hdisabled, hstuck⟩ := (step_eq_none_iff hv).mp h
  rw [step_of_refused h]
  exact ⟨hv, hdisabled, hover, hstuck⟩

/-- From such a state only enabled plugins are shown until the counter is 0 again, or when the lock
is released before that and there is an enabled plugin. -/
lemma onlyEnabled_steps_iff (h : Refusing n maxFrames enabled v) (hpos : ∀ i < n, 0 < maxFrames i)
    (keys : List Bool) :
    OnlyEnabled enabled (v.steps n maxFrames enabled keys).1 ↔
      keys.length < 65536 - v.counter.toNat ∨
        (∃ j < n, enabled j = true) ∧ true ∈ keys.take (65536 - v.counter.toNat - 1) := by
  have hcounter := v.counter.toNat_lt
  induction keys generalizing v with
  | nil => exact iff_of_true (fun i hi => absurd hi List.not_mem_nil) (.inl (by simp; omega))
  | cons key keys ih =>
    rw [steps, onlyEnabled_cons, List.length_cons]
    by_cases hwrap : v.counter.toNat = 65535
    · have hzero : v.counter + 1 = 0 := by
        rw [← UInt16.toNat_inj, UInt16.toNat_add, hwrap]
        rfl
      have hshown : (v.step n maxFrames enabled key).1 = some v.current := by
        rw [step_of_lt (hzero ▸ hpos _ h.current_lt)]
      rw [hshown, hwrap]
      refine iff_of_false (fun hall => ?_) ?_
      · have henabled := hall.1 v.current rfl
        rw [h.disabled] at henabled
        cases henabled
      · simp
    have hnext : (v.counter + 1).toNat = v.counter.toNat + 1 := toNat_add_one (by omega)
    have hover : maxFrames v.current ≤ v.counter + 1 := by
      have hle := UInt16.le_iff_toNat_le.mp h.framesOver
      rw [UInt16.le_iff_toNat_le, hnext]
      omega
    have htake : 65536 - v.counter.toNat - 1 = 65536 - (v.counter + 1).toNat - 1 + 1 := by omega
    rw [htake, List.take_succ_cons, List.mem_cons]
    by_cases hstuck : (v.count key).locked = true ∨ ∀ j < n, enabled j = false
    · have hrefused := (@step_eq_none_iff n maxFrames enabled v key h.current_lt).mpr
        ⟨hover, h.disabled, hstuck⟩
      have hrest := @ih (v.count key) ⟨h.current_lt, h.disabled, hover, hstuck⟩
        (v.counter + 1).toNat_lt
      rw [step_of_refused hrefused]
      refine (and_iff_right fun i hi => by cases hi).trans (hrest.trans (or_congr ?_ ?_))
      · change keys.length < 65536 - (v.counter + 1).toNat ↔ _
        omega
      · refine and_congr_right fun hexists => (or_iff_right fun hkey => ?_).symm
        -- the key would have released the lock
        have hlocked := h.stuck.resolve_right (not_all_disabled hexists)
        have hlocked' := hstuck.resolve_right (not_all_disabled hexists)
        rw [count, ← hkey, if_pos rfl, hlocked] at hlocked'
        cases hlocked'
    · obtain ⟨hreleased, hsome⟩ := not_or.mp hstuck
      have hlocked := h.stuck.resolve_right hsome
      have hkey : key = true := by
        by_contra hnot
        rw [count, if_neg hnot] at hreleased
        exact hreleased hlocked
      have hexists : ∃ j < n, enabled j = true := by
        by_contra hnone
        exact hsome fun j hj => Bool.eq_false_iff.mpr fun henabled => hnone ⟨j, hj, henabled⟩
      rcases hfollower : (v.count key).follower n enabled with _ | j
      · have hnone := (@follower_eq_none_iff n enabled (v.count key) h.current_lt).mp hfollower
        exact absurd hnone.2 hstuck
      · obtain ⟨hj, henabled⟩ := @follower_spec n enabled (v.count key) j h.current_lt hfollower
        rw [step_of_follower hover hfollower]
        exact iff_of_true ⟨fun i hi => Option.some_inj.mp hi ▸ henabled,
          onlyEnabled_steps hj henabled keys⟩ (.inr ⟨hexists, .inl hkey.symm⟩)

end LCDView

namespace LCDScreenPluginsManager

open LCDView

variable {m : LCDScreenPluginsManager} {mask : UInt64}

/-- A call was refused. -/
lemma refusing_of_refused (h : Loaded m) {call : LCDCall}
    (hrefused : (m.getNextLCDScreenBuffer call).1 = .potentialInfiniteLoop) :
    Loaded (m.getNextLCDScreenBuffer call).2 ∧
      Refusing (m.getNextLCDScreenBuffer call).2.plugins.length
        (m.getNextLCDScreenBuffer call).2.maxFrames
        ((m.getNextLCDScreenBuffer call).2.enabled call.LCDPluginsMask1)
        (m.getNextLCDScreenBuffer call).2.view := by
  have hfollows := follows_getNextLCDScreenBuffer h call
  have hnone := hfollows.shows.plugin
  rw [hrefused] at hnone
  refine ⟨loaded_getNextLCDScreenBuffer h call, ?_⟩
  rw [hfollows.same.length, funext hfollows.same.maxFrames, funext (hfollows.same.enabled _),
    hfollows.view]
  exact refusing_of_step h.current_lt hnone.symm

/-- What a plugin that does not throw has drawn. -/
lemma drawn_of_works {calls : List LCDCall} (h : Loaded m)
    (hworks : ∀ call ∈ calls, call.Works) {shown : LCDShown} {i : ℕ}
    (hshown : shown ∈ (getNextLCDScreenBuffers calls m).1) (hi : shown.plugin = some i) :
    shown = .drawn i := by
  induction calls generalizing m with
  | nil => cases hshown
  | cons call calls ih =>
    obtain ⟨hfirst, hrest⟩ := List.forall_mem_cons.mp hworks
    rcases List.mem_cons.mp hshown with rfl | hmem
    · have hfollows := follows_getNextLCDScreenBuffer h call
      have hnext := hfollows.shows.plugin.symm.trans hi
      obtain ⟨k, hk⟩ := (draws_iff_of_works h hfirst).mpr fun hnone =>
        Option.some_ne_none i (hnext.symm.trans hnone)
      rw [hk] at hi ⊢
      cases hi
      rfl
    · exact ih (loaded_getNextLCDScreenBuffer h call) hrest hmem

/-- Whatever is drawn by calls with these keys is enabled. -/
def DrawsOnlyEnabled (m : LCDScreenPluginsManager) (mask : UInt64) (keys : List String) : Prop :=
  ∀ calls : List LCDCall, calls.map LCDCall.LCDKey = keys →
    (∀ call ∈ calls, call.LCDPluginsMask1 = mask) →
    ∀ i, .drawn i ∈ (m.getNextLCDScreenBuffers calls).1 → m.enabled mask i = true

lemma drawsOnlyEnabled_iff (h : Loaded m) (mask : UInt64) (keys : List String) :
    m.DrawsOnlyEnabled mask keys ↔
      OnlyEnabled (m.enabled mask) (m.view.steps m.plugins.length m.maxFrames (m.enabled mask)
        (keys.map fun key => key = LCD_KEY_L2)).1 := by
  constructor
  · intro hdraws i hi
    have hmask : ∀ call ∈ keys.map fun key => { emptyCall mask with LCDKey := key },
        call.LCDPluginsMask1 = mask ∧ call.Works := by
      intro call hcall
      obtain ⟨key, -, rfl⟩ := List.mem_map.mp hcall
      exact ⟨rfl, fun _ _ => ⟨[], rfl⟩⟩
    have hshown := map_plugin_getNextLCDScreenBuffers h fun call hcall => (hmask call hcall).1
    rw [List.map_map] at hshown
    obtain ⟨shown, hmem, hplugin⟩ := List.mem_map.mp (hshown ▸ hi)
    refine hdraws (keys.map fun key => { emptyCall mask with LCDKey := key }) ?_
      (fun call hcall => (hmask call hcall).1) i ?_
    · rw [List.map_map]
      exact List.map_id keys
    · rw [← drawn_of_works h (fun call hcall => (hmask call hcall).2) hmem hplugin]
      exact hmem
  · rintro honly calls rfl hmask i hi
    have hshown : some i ∈ (getNextLCDScreenBuffers calls m).1.map LCDShown.plugin :=
      List.mem_map.mpr ⟨.drawn i, hi, rfl⟩
    rw [map_plugin_getNextLCDScreenBuffers h hmask] at hshown
    rw [List.map_map] at honly
    exact honly i hshown

lemma findOneLCDScreenPlugin_iff (h : Loaded m) (mask : UInt64) :
    m.findOneLCDScreenPlugin mask = true ↔ ∃ j < m.plugins.length, m.enabled mask j = true := by
  constructor
  · intro hmask
    exact (Ready.loaded (.inr h) hmask).2
  · rintro ⟨j, hj, henabled⟩
    rw [enabled, List.getElem?_eq_getElem hj] at henabled
    rw [findOneLCDScreenPlugin, h.noPlugins]
    exact List.any_eq_true.mpr ⟨_, List.getElem_mem hj, henabled⟩

lemma mem_take_keys_iff (keys : List String) (k : ℕ) :
    true ∈ (keys.map fun key => decide (key = LCD_KEY_L2)).take k ↔ LCD_KEY_L2 ∈ keys.take k := by
  rw [← List.map_take, List.mem_map]
  constructor
  · rintro ⟨key, hkey, heq⟩
    exact of_decide_eq_true heq ▸ hkey
  · intro hkey
    exact ⟨_, hkey, decide_eq_true rfl⟩

lemma drawsOnlyEnabled_after_iff (h : Loaded m) {call : LCDCall}
    (hrefused : (m.getNextLCDScreenBuffer call).1 = .potentialInfiniteLoop) (keys : List String) :
    (m.getNextLCDScreenBuffer call).2.DrawsOnlyEnabled call.LCDPluginsMask1 keys ↔
      keys.length < 65536 - (m.getNextLCDScreenBuffer call).2.frameCounter.toNat ∨
        m.findOneLCDScreenPlugin call.LCDPluginsMask1 = true ∧
          LCD_KEY_L2 ∈
            keys.take (65536 - (m.getNextLCDScreenBuffer call).2.frameCounter.toNat - 1) := by
  have hfollows := follows_getNextLCDScreenBuffer h call
  obtain ⟨hloaded, hrefusing⟩ := refusing_of_refused h hrefused
  have hsteps := onlyEnabled_steps_iff hrefusing
    (fun i hi => UInt16.lt_iff_toNat_lt.mpr (maxFrames_pos hi))
    (keys.map fun key => key = LCD_KEY_L2)
  rw [List.length_map, mem_take_keys_iff, ← findOneLCDScreenPlugin_iff hloaded] at hsteps
  rw [drawsOnlyEnabled_iff hloaded]
  have hfind : (m.getNextLCDScreenBuffer call).2.findOneLCDScreenPlugin call.LCDPluginsMask1 =
      true ↔ m.findOneLCDScreenPlugin call.LCDPluginsMask1 = true := by
    rw [findOneLCDScreenPlugin_iff hloaded, findOneLCDScreenPlugin_iff h, hfollows.same.length,
      funext (hfollows.same.enabled _)]
  rw [hfind] at hsteps
  exact hsteps

end LCDScreenPluginsManager

open LCDScreenPluginsManager

/-- After a refused call the later calls with the same mask only draw enabled plugins exactly when
the frame counter does not come back to 0, or when the key releases the lock before that and a
plugin is enabled. -/
theorem drawsOnlyEnabled_after_refusal_iff (plugins : List (Option LCDPlugin))
    (m : LCDScreenPluginsManager) (hm : LCDScreenPluginsManager.Reachable plugins m)
    (call : LCDCall) (hrefused : (m.getNextLCDScreenBuffer call).1 = .potentialInfiniteLoop)
    (keys : List String) :
    (m.getNextLCDScreenBuffer call).2.DrawsOnlyEnabled call.LCDPluginsMask1 keys ↔
      keys.length < 65536 - (m.getNextLCDScreenBuffer call).2.frameCounter.toNat ∨
        m.findOneLCDScreenPlugin call.LCDPluginsMask1 = true ∧
          LCD_KEY_L2 ∈
            keys.take (65536 - (m.getNextLCDScreenBuffer call).2.frameCounter.toNat - 1) := by
  rcases hm.ready with hnone | hloaded
  · rw [getNextLCDScreenBuffer, if_pos hnone] at hrefused
    cases hrefused
  · exact drawsOnlyEnabled_after_iff hloaded hrefused keys

/-- The manager goes on to a plugin that the mask does not enable: none is enabled. -/
def jumpedTwo : LCDScreenPluginsManager := (new twoPlugins).jumpToNextPlugin

lemma reachable_jumpedTwo : LCDScreenPluginsManager.Reachable twoPlugins jumpedTwo :=
  ⟨[.jumpToNextPlugin], rfl⟩

lemma refused_jumpedTwo :
    (jumpedTwo.getNextLCDScreenBuffer (emptyCall 4)).1 = .potentialInfiniteLoop := by
  decide

theorem drawsOnlyEnabled_jumpedTwo :
    (jumpedTwo.getNextLCDScreenBuffer (emptyCall 4)).2.DrawsOnlyEnabled 4 ["", ""] :=
  (drawsOnlyEnabled_after_refusal_iff twoPlugins jumpedTwo reachable_jumpedTwo (emptyCall 4)
    refused_jumpedTwo ["", ""]).mpr (.inl (by decide))

/-- After 65520 more calls the counter is 0, and the splash screen is drawn. -/
theorem not_drawsOnlyEnabled_65520 : ¬ ∀ (plugins : List (Option LCDPlugin))
    (m : LCDScreenPluginsManager), LCDScreenPluginsManager.Reachable plugins m →
    ∀ call : LCDCall, (m.getNextLCDScreenBuffer call).1 = .potentialInfiniteLoop →
    ∀ keys : List String,
      (m.getNextLCDScreenBuffer call).2.DrawsOnlyEnabled call.LCDPluginsMask1 keys := by
  intro hall
  have hdraws := hall twoPlugins jumpedTwo reachable_jumpedTwo (emptyCall 4) refused_jumpedTwo
    (List.replicate 65520 "")
  have hloaded : jumpedTwo.Loaded := ⟨rfl, by decide⟩
  have hcounter : (jumpedTwo.getNextLCDScreenBuffer (emptyCall 4)).2.frameCounter.toNat = 16 := by
    decide
  rw [drawsOnlyEnabled_after_iff hloaded refused_jumpedTwo, hcounter, List.length_replicate]
    at hdraws
  rcases hdraws with hlength | ⟨hfind, -⟩
  · exact absurd hlength (by decide)
  · exact absurd hfind (by decide)

end GLogiK
