import GLogiK.LCD.ScreenPlugins
import GLogiK.Lib.Rotation
import GLogiK.Lib.Run

/-!
# Turns of the plugins

What the manager shows only depends on the current plugin, the frame counter and the lock. Without
lock the enabled plugins have their turns one after another, each one for all of its frames.
-/

namespace GLogiK

open Rotation

/-! ### The abstract machine -/

/-- What decides which plugin is shown. -/
structure LCDView where
  current : ℕ
  counter : UInt16
  locked : Bool
  deriving DecidableEq, Repr

namespace LCDView

variable (n : ℕ) (maxFrames : ℕ → UInt16) (enabled : ℕ → Bool)

/-- The plugin that follows when the frames of the current one are over. -/
def follower (v : LCDView) : Option ℕ :=
  if v.locked then (if enabled v.current then some v.current else none)
  else next enabled n v.current

/-- A frame is counted, with or without the locking key. -/
def count (key : Bool) (v : LCDView) : LCDView where
  current := v.current
  counter := v.counter + 1
  locked := if key then !v.locked else v.locked

/-- The plugin that is shown next, and `none` when the search is refused. -/
def step (key : Bool) (v : LCDView) : Option ℕ × LCDView :=
  let v := v.count key
  if v.counter < maxFrames v.current then (some v.current, v)
  else
    (v.follower n enabled).elim (none, v) fun j =>
      (some j, { v with current := j, counter := 0 })

def steps : List Bool → LCDView → List (Option ℕ) × LCDView
  | [], v          => ([], v)
  | key :: keys, v =>
    let next := v.step n maxFrames enabled key
    let rest := steps keys next.2
    (next.1 :: rest.1, rest.2)

variable {n maxFrames enabled}

lemma toNat_add_one {counter : UInt16} (h : counter.toNat < 65535) :
    (counter + 1).toNat = counter.toNat + 1 := by
  rw [UInt16.toNat_add]
  exact Nat.mod_eq_of_lt (Nat.succ_lt_succ h)

lemma follower_spec {v : LCDView} {j : ℕ} (hv : v.current < n)
    (h : v.follower n enabled = some j) : j < n ∧ enabled j = true := by
  rw [follower] at h
  split_ifs at h with hlocked henabled
  · cases h
    exact ⟨hv, henabled⟩
  · exact next_spec (Nat.zero_lt_of_lt hv) h

lemma step_current_lt {v : LCDView} {key : Bool} (hv : v.current < n) :
    (v.step n maxFrames enabled key).2.current < n := by
  rw [step]
  split_ifs
  · exact hv
  · rcases hfollower : (v.count key).follower n enabled with _ | j
    · exact hv
    · exact (@follower_spec n enabled (v.count key) j hv hfollower).1

/-! ### Turns without lock -/

/-- The next enabled plugin, when there is one. -/
def follow (n : ℕ) (enabled : ℕ → Bool) (i : ℕ) : ℕ := (next enabled n i).getD i

/-- How often the current plugin is still shown. -/
def remaining (maxFrames : ℕ → UInt16) (v : LCDView) : ℕ :=
  (maxFrames v.current).toNat - (v.counter + 1).toNat

lemma next_eq_follow (h : ∃ j < n, enabled j = true) (i : ℕ) :
    next enabled n i = some (follow n enabled i) := by
  obtain ⟨j, hj, henabled⟩ := h
  obtain ⟨k, hk⟩ := Option.isSome_iff_exists.mp (next_isSome i hj henabled)
  rw [follow, hk, Option.getD_some]

lemma step_unlocked (h : ∃ j < n, enabled j = true) {v : LCDView} (hv : v.locked = false) :
    v.step n maxFrames enabled false =
      if v.counter + 1 < maxFrames v.current then
        (some v.current, { v with counter := v.counter + 1 })
      else
        (some (follow n enabled v.current),
          { v with current := follow n enabled v.current, counter := 0 }) := by
  have hfollower : (v.count false).follower n enabled = some (follow n enabled v.current) := by
    rw [follower, count, if_neg Bool.false_ne_true, hv, if_neg Bool.false_ne_true]
    exact next_eq_follow h v.current
  rw [step, hfollower]
  rfl

lemma steps_eq_turns (h : ∃ j < n, enabled j = true) (hmax : ∀ i, (maxFrames i).toNat ≤ 20)
    (k : ℕ) {v : LCDView} (hv : v.locked = false) :
    (v.steps n maxFrames enabled (List.replicate k false)).1 =
      (turns (follow n enabled) (fun i => (maxFrames i).toNat) k v.current
        (v.remaining maxFrames)).map some := by
  induction k generalizing v with
  | zero => rfl
  | succ k ih =>
    rw [List.replicate_succ, steps, step_unlocked h hv]
    by_cases hmore : v.counter + 1 < maxFrames v.current
    · have hlt := UInt16.lt_iff_toNat_lt.mp hmore
      have hbound := hmax v.current
      have hcounter : (v.counter + 1 + 1).toNat = (v.counter + 1).toNat + 1 :=
        toNat_add_one (by omega)
      have hremaining : v.remaining maxFrames =
          remaining maxFrames { v with counter := v.counter + 1 } + 1 := by
        rw [remaining, remaining, hcounter]
        change _ = (maxFrames v.current).toNat - ((v.counter + 1).toNat + 1) + 1
        omega
      have hrest := @ih { v with counter := v.counter + 1 } hv
      rw [if_pos hmore, hremaining, turns, List.map_cons, ← hrest]
    · have hle := UInt16.not_lt.mp hmore
      have hremaining : v.remaining maxFrames = 0 :=
        Nat.sub_eq_zero_of_le (UInt16.le_iff_toNat_le.mp hle)
      have hrest := @ih { v with current := follow n enabled v.current, counter := 0 } hv
      rw [if_neg hmore, hremaining, turns, List.map_cons]
      exact congrArg _ hrest

end LCDView

namespace LCDScreenPluginsManager

/-! ### The plugins stay what they are -/

/-- What never changes in a plugin. -/
def kind (plugin : LCDPlugin) : UInt64 × LCDPluginTempo := (plugin.pluginID, plugin.pluginTempo)

/-- The managers have the same plugins. -/
structure Same (m m' : LCDScreenPluginsManager) : Prop where
  kinds : m'.plugins.map kind = m.plugins.map kind
  noPlugins : m'.noPlugins = m.noPlugins

variable {m m' m'' : LCDScreenPluginsManager} {mask : UInt64} {i : ℕ}

lemma Same.refl (m : LCDScreenPluginsManager) : Same m m := ⟨rfl, rfl⟩

lemma Same.trans (h : Same m m') (h' : Same m' m'') : Same m m'' :=
  ⟨h'.kinds.trans h.kinds, h'.noPlugins.trans h.noPlugins⟩

lemma map_kind_modify (plugins : List LCDPlugin) (i : ℕ) {f : LCDPlugin → LCDPlugin}
    (hf : ∀ plugin, kind (f plugin) = kind plugin) :
    (plugins.modify i f).map kind = plugins.map kind := by
  refine List.ext_getElem? fun j => ?_
  rw [List.getElem?_map, List.getElem?_map, List.getElem?_modify]
  rcases plugins[j]? with _ | plugin
  · rfl
  · refine congrArg some ?_
    change kind (if i = j then f plugin else plugin) = kind plugin
    split_ifs
    · exact hf plugin
    · rfl

/-- The frames of a plugin. -/
def maxFrames (m : LCDScreenPluginsManager) (i : ℕ) : UInt16 :=
  m.plugins[i]?.elim 0 LCDPlugin.getPluginMaxFrames

lemma Same.length (h : Same m m') : m'.plugins.length = m.plugins.length := by
  have hlength := congrArg List.length h.kinds
  rwa [List.length_map, List.length_map] at hlength

lemma Same.getElem? (h : Same m m') (i : ℕ) : m'.plugins[i]?.map kind = m.plugins[i]?.map kind := by
  rw [← List.getElem?_map, h.kinds, List.getElem?_map]

lemma Same.enabled (h : Same m m') (mask : UInt64) (i : ℕ) :
    m'.enabled mask i = m.enabled mask i := by
  have hkind : ∀ plugin : Option LCDPlugin,
      (plugin.elim false fun plugin => mask &&& plugin.pluginID ≠ 0) =
        (plugin.map kind).elim false fun kind => mask &&& kind.1 ≠ 0 := fun plugin => by
    cases plugin <;> rfl
  rw [LCDScreenPluginsManager.enabled, LCDScreenPluginsManager.enabled, hkind, hkind, h.getElem?]

lemma Same.maxFrames (h : Same m m') (i : ℕ) : m'.maxFrames i = m.maxFrames i := by
  have hkind : ∀ plugin : Option LCDPlugin,
      plugin.elim 0 LCDPlugin.getPluginMaxFrames =
        (plugin.map kind).elim 0 fun kind => kind.2.getTempo.2 := fun plugin => by
    cases plugin <;> rfl
  rw [LCDScreenPluginsManager.maxFrames, LCDScreenPluginsManager.maxFrames, hkind, hkind,
    h.getElem?]

/-! ### The search -/

/-- Only the current plugin is another one. -/
structure Moved (m m' : LCDScreenPluginsManager) (i : ℕ) : Prop where
  same : Same m m'
  current : m'.itCurrentPlugin = i
  counter : m'.frameCounter = m.frameCounter
  locked : m'.currentPluginLocked = m.currentPluginLocked

lemma moved_jump (m : LCDScreenPluginsManager) :
    Moved m m.jump (succ m.plugins.length m.itCurrentPlugin) :=
  ⟨⟨map_kind_modify _ _ fun _ => rfl, rfl⟩, rfl, rfl, rfl⟩

lemma Moved.trans {j : ℕ} (h : Moved m m' i) (h' : Moved m' m'' j) : Moved m m'' j :=
  ⟨h.same.trans h'.same, h'.current, h'.counter.trans h.counter, h'.locked.trans h.locked⟩

/-- A search as a result of the abstract one. -/
def Finds (m : LCDScreenPluginsManager) (first : ℕ) :
    Option (Option ℕ) → Option (Bool × LCDScreenPluginsManager) → Prop
  | none, result          => result = none
  | some none, result     => ∃ m', result = some (false, m') ∧ Moved m m' first
  | some (some j), result => ∃ m', result = some (true, m') ∧ Moved m m' j

lemma Finds.of_moved {first : ℕ} {found : Option (Option ℕ)}
    {result : Option (Bool × LCDScreenPluginsManager)} (hmoved : Moved m m' i)
    (h : Finds m' first found result) : Finds m first found result := by
  rcases found with _ | _ | j
  · exact h
  · obtain ⟨m'', hresult, hm⟩ := h
    exact ⟨m'', hresult, hmoved.trans hm⟩
  · obtain ⟨m'', hresult, hm⟩ := h
    exact ⟨m'', hresult, hmoved.trans hm⟩

/-- Without lock the loop is the abstract search. -/
lemma finds_findPlugin (hunlocked : m.currentPluginLocked = false) (first fuel : ℕ) :
    Finds m first (seek (m.enabled mask) m.plugins.length first fuel m.itCurrentPlugin)
      (findPlugin mask first fuel m) := by
  induction fuel generalizing m with
  | zero => rfl
  | succ fuel ih =>
    have hjump := moved_jump m
    have henabled : m.jump.enabled mask m.jump.itCurrentPlugin =
        m.enabled mask (succ m.plugins.length m.itCurrentPlugin) := by
      rw [hjump.same.enabled, hjump.current]
    have hstep : findPlugin mask first (fuel + 1) m =
        if m.enabled mask (succ m.plugins.length m.itCurrentPlugin) then some (true, m.jump)
        else if succ m.plugins.length m.itCurrentPlugin = first then some (false, m.jump)
        else findPlugin mask first fuel m.jump := by
      rw [findPlugin, hunlocked, if_neg Bool.false_ne_true, henabled, hjump.current]
    rw [hstep, seek]
    split_ifs with hfound hfirst
    · exact ⟨m.jump, rfl, hjump⟩
    · exact ⟨m.jump, rfl, hfirst ▸ hjump⟩
    · have hrest := @ih m.jump (hjump.locked.trans hunlocked)
      rw [funext (hjump.same.enabled mask), hjump.same.length, hjump.current] at hrest
      exact hrest.of_moved hjump

/-- With the lock only the current plugin is asked. -/
lemma findPlugin_locked (hlocked : m.currentPluginLocked = true) (fuel : ℕ) :
    findPlugin mask m.itCurrentPlugin (fuel + 1) m =
      some (m.enabled mask m.itCurrentPlugin, m) := by
  rw [findPlugin, hlocked, if_pos rfl, if_pos rfl]
  rcases m.enabled mask m.itCurrentPlugin <;> rfl

/-! ### A call -/

/-- There is a current plugin. -/
structure Loaded (m : LCDScreenPluginsManager) : Prop where
  noPlugins : m.noPlugins = false
  current_lt : m.itCurrentPlugin < m.plugins.length

/-- What the abstract machine sees. -/
def view (m : LCDScreenPluginsManager) : LCDView where
  current := m.itCurrentPlugin
  counter := m.frameCounter
  locked := m.currentPluginLocked

/-- A plugin is shown when it does not throw. -/
inductive Shows (call : LCDCall) : LCDShown → Option ℕ → Prop
  | refused : Shows call .potentialInfiniteLoop none
  | drawn (i : ℕ) : Shows call (.drawn i) (some i)
  | failed (i : ℕ) {e : String} {plugin : LCDPlugin} {locked : Bool}
      (h : call.getNextPBMFrame plugin locked = .error e) : Shows call (.failed i e) (some i)

lemma Shows.plugin {call : LCDCall} {shown : LCDShown} {o : Option ℕ} (h : Shows call shown o) :
    shown.plugin = o := by
  cases h <;> rfl

lemma Shows.ne_searching {call : LCDCall} {shown : LCDShown} {o : Option ℕ}
    (h : Shows call shown o) : shown ≠ .searching := by
  rintro rfl
  cases h

/-- A call that does what the abstract machine does. -/
structure Follows (call : LCDCall) (m : LCDScreenPluginsManager)
    (result : LCDShown × LCDScreenPluginsManager) (next : Option ℕ × LCDView) : Prop where
  shows : Shows call result.1 next.1
  same : Same m result.2
  view : result.2.view = next.2

variable {call : LCDCall}

lemma follows_drawCurrentPlugin (hlt : m.itCurrentPlugin < m.plugins.length) (call : LCDCall) :
    Follows call m (m.drawCurrentPlugin call) (some m.itCurrentPlugin, m.view) := by
  have hsame : Same m m.prepare := by
    refine ⟨map_kind_modify _ _ fun plugin => ?_, rfl⟩
    rw [LCDPlugin.prepareNextPBMFrame]
    split_ifs <;> rfl
  rw [drawCurrentPlugin, List.getElem?_eq_getElem hlt]
  rcases hframe : call.getNextPBMFrame m.plugins[m.itCurrentPlugin].prepareNextPBMFrame
    m.currentPluginLocked with e | PBMData
  · simp only [hframe]
    exact ⟨.failed _ hframe, ⟨hsame.kinds, rfl⟩, rfl⟩
  · simp only [hframe]
    exact ⟨.drawn _, ⟨hsame.kinds, rfl⟩, rfl⟩

/-- The found plugin is drawn from its first frame on. -/
lemma follows_restart {found : LCDScreenPluginsManager} {j : ℕ} (hmoved : Moved m found j)
    (hj : j < m.plugins.length) (call : LCDCall) :
    Follows call m (found.restart.drawCurrentPlugin call)
      (some j, { m.view with current := j, counter := 0 }) := by
  have hsame : Same m found.restart :=
    hmoved.same.trans ⟨map_kind_modify _ _ fun _ => rfl, rfl⟩
  have hview : found.restart.view = { m.view with current := j, counter := 0 } := by
    rw [view, view, restart, hmoved.current, hmoved.locked]
  have hcurrent : found.restart.itCurrentPlugin = j := hmoved.current
  have hdraw := @follows_drawCurrentPlugin found.restart (by rw [hcurrent, hsame.length]; exact hj)
    call
  rw [hview, hcurrent] at hdraw
  exact ⟨hdraw.shows, hsame.trans hdraw.same, hdraw.view⟩

/-- A search that was refused. -/
lemma follows_refused {found : LCDScreenPluginsManager}
    (hmoved : Moved m found m.itCurrentPlugin) :
    Follows call m (.potentialInfiniteLoop, found.blank) (none, m.view) := by
  refine ⟨.refused, ⟨hmoved.same.kinds, hmoved.same.noPlugins⟩, ?_⟩
  change found.view = m.view
  rw [view, view, hmoved.current, hmoved.counter, hmoved.locked]

lemma follows_switchPlugin (hlt : m.itCurrentPlugin < m.plugins.length) (call : LCDCall) :
    Follows call m (m.switchPlugin call)
      ((m.view.follower m.plugins.length (m.enabled call.LCDPluginsMask1)).elim (none, m.view)
        fun j => (some j, { m.view with current := j, counter := 0 })) := by
  rw [switchPlugin, LCDView.follower]
  rcases hlocked : m.currentPluginLocked with _ | _
  · have hview : m.view.locked = false := hlocked
    have hfinds := @finds_findPlugin m call.LCDPluginsMask1 hlocked m.itCurrentPlugin
      m.plugins.length
    rw [seek_eq_next hlt] at hfinds
    rw [hview, if_neg Bool.false_ne_true]
    rcases hnext : next (m.enabled call.LCDPluginsMask1) m.plugins.length m.itCurrentPlugin
      with _ | j
    · rw [hnext] at hfinds
      obtain ⟨found, hfound, hmoved⟩ := hfinds
      rw [hfound, view, hnext]
      exact follows_refused hmoved
    · rw [hnext] at hfinds
      obtain ⟨found, hfound, hmoved⟩ := hfinds
      rw [hfound, view, hnext]
      exact follows_restart hmoved (next_spec (Nat.zero_lt_of_lt hlt) hnext).1 call
  · have hview : m.view.locked = true := hlocked
    have hmoved : Moved m m m.itCurrentPlugin := ⟨.refl m, rfl, rfl, rfl⟩
    obtain ⟨k, hk⟩ := Nat.exists_eq_succ_of_ne_zero (Nat.ne_zero_of_lt hlt)
    rw [hview, if_pos rfl, hk, findPlugin_locked hlocked]
    change Follows _ _ _ (Option.elim (if m.enabled call.LCDPluginsMask1 m.itCurrentPlugin then
      some m.itCurrentPlugin else none) _ _)
    rcases m.enabled call.LCDPluginsMask1 m.itCurrentPlugin
    · exact follows_refused hmoved
    · exact follows_restart hmoved hlt call

lemma view_countFrame (m : LCDScreenPluginsManager) (LCDKey : String) :
    (m.countFrame LCDKey).view = m.view.count (LCDKey = LCD_KEY_L2) := by
  by_cases hkey : LCDKey = LCD_KEY_L2
  · rw [countFrame, if_pos hkey, decide_eq_true hkey]
    rfl
  · rw [countFrame, if_neg hkey, decide_eq_false hkey]
    rfl

/-- The header is all that is added at the end. -/
lemma Follows.header {result : LCDShown × LCDScreenPluginsManager} {next : Option ℕ × LCDView}
    (h : Follows call m result next) : Follows call m (result.1, result.2.header) next :=
  ⟨h.shows, ⟨h.same.kinds, h.same.noPlugins⟩, h.view⟩

/-- One call is one step of the abstract machine. -/
theorem follows_getNextLCDScreenBuffer (h : Loaded m) (call : LCDCall) :
    Follows call m (m.getNextLCDScreenBuffer call)
      (m.view.step m.plugins.length m.maxFrames (m.enabled call.LCDPluginsMask1)
        (call.LCDKey = LCD_KEY_L2)) := by
  have hlt := h.current_lt
  have hmax : m.maxFrames m.itCurrentPlugin = m.plugins[m.itCurrentPlugin].getPluginMaxFrames := by
    rw [maxFrames, List.getElem?_eq_getElem hlt, Option.elim_some]
  have hcount := view_countFrame m call.LCDKey
  have hsame : Same m (m.countFrame call.LCDKey) := ⟨rfl, rfl⟩
  have hcounted : (m.countFrame call.LCDKey).itCurrentPlugin <
      (m.countFrame call.LCDKey).plugins.length := hlt
  rw [getNextLCDScreenBuffer, h.noPlugins, if_neg Bool.false_ne_true,
    List.getElem?_eq_getElem hlt, Option.elim_some, LCDView.step, ← hcount, ← hmax]
  change Follows call m (_, LCDScreenPluginsManager.header _)
    (if (m.countFrame call.LCDKey).frameCounter < m.maxFrames m.itCurrentPlugin then _ else _)
  by_cases hmore : (m.countFrame call.LCDKey).frameCounter < m.maxFrames m.itCurrentPlugin
  · have hdraw := follows_drawCurrentPlugin hcounted call
    rw [if_pos hmore, if_neg (UInt16.not_le.mpr hmore)]
    exact Follows.header ⟨hdraw.shows, hsame.trans hdraw.same, hdraw.view⟩
  · have hswitch := follows_switchPlugin hcounted call
    rw [if_neg hmore, if_pos (UInt16.not_lt.mp hmore)]
    exact Follows.header ⟨hswitch.shows, hsame.trans hswitch.same, hswitch.view⟩

/-! ### Reachable states -/

/-- There is a current plugin unless there is no plugin at all. -/
def Ready (m : LCDScreenPluginsManager) : Prop := m.noPlugins = true ∨ Loaded m

lemma Follows.loaded {result : LCDShown × LCDScreenPluginsManager} {next : Option ℕ × LCDView}
    (h : Follows call m result next) (hm : Loaded m) (hlt : next.2.current < m.plugins.length) :
    Loaded result.2 := by
  have hcurrent : result.2.itCurrentPlugin = next.2.current := congrArg LCDView.current h.view
  exact ⟨h.same.noPlugins.trans hm.noPlugins, by rw [hcurrent, h.same.length]; exact hlt⟩

lemma loaded_getNextLCDScreenBuffer (h : Loaded m) (call : LCDCall) :
    Loaded (m.getNextLCDScreenBuffer call).2 :=
  (follows_getNextLCDScreenBuffer h call).loaded h (LCDView.step_current_lt h.current_lt)

lemma ready_new (plugins : List (Option LCDPlugin)) : Ready (new plugins) := by
  rw [Ready, new]
  rcases plugins.filterMap id with _ | ⟨plugin, rest⟩
  · exact .inl rfl
  · exact .inr ⟨rfl, Nat.succ_pos _⟩

/-- Unlocking and jumping only change the lock and the counter. -/
lemma ready_jumpToNextPlugin (h : Ready m) : Ready m.jumpToNextPlugin := by
  rw [jumpToNextPlugin]
  split_ifs
  · exact h
  · rcases m.plugins[m.itCurrentPlugin]? with _ | plugin
    · exact h
    · exact h.imp id fun hm => ⟨hm.noPlugins, hm.current_lt⟩

lemma ready_unlockPlugin (h : Ready m) : Ready m.unlockPlugin :=
  h.imp id fun hm => ⟨hm.noPlugins, hm.current_lt⟩

lemma ready_ite {c : Prop} [Decidable c] (h : Ready m) (h' : Ready m') :
    Ready (if c then m else m') := by
  split_ifs
  · exact h
  · exact h'

lemma ready_step (h : Ready m) (event : LCDEvent) : Ready (event.step m) := by
  cases event with
  | setDeviceLCDPluginsMask mask =>
    exact ready_ite (ready_jumpToNextPlugin (ready_unlockPlugin h)) (ready_unlockPlugin h)
  | unlockPlugin => exact ready_unlockPlugin h
  | jumpToNextPlugin => exact ready_jumpToNextPlugin h
  | getNextLCDScreenBuffer call =>
    rcases h with hnone | hm
    · rw [LCDEvent.step, getNextLCDScreenBuffer, if_pos hnone]
      exact .inl hnone
    · exact .inr (loaded_getNextLCDScreenBuffer hm call)

/-- The states that the daemon brings the manager to. -/
def Reachable (plugins : List (Option LCDPlugin)) (m : LCDScreenPluginsManager) : Prop :=
  Run.Reachable LCDEvent.step (new plugins) m

lemma Reachable.ready {plugins : List (Option LCDPlugin)} (h : Reachable plugins m) : Ready m :=
  Run.Reachable.induction h (ready_new plugins) fun _ event hm => ready_step hm event

/-- A mask that enables a plugin: there is a current one. -/
lemma Ready.loaded (h : Ready m) (hmask : m.findOneLCDScreenPlugin mask = true) :
    Loaded m ∧ ∃ j < m.plugins.length, m.enabled mask j = true := by
  rw [findOneLCDScreenPlugin, Bool.and_eq_true, Bool.not_eq_true'] at hmask
  obtain ⟨plugin, hmem, hplugin⟩ := List.any_eq_true.mp hmask.2
  obtain ⟨j, hj, rfl⟩ := List.getElem_of_mem hmem
  refine ⟨h.resolve_left fun hnone => ?_, j, hj, ?_⟩
  · rw [hmask.1] at hnone
    cases hnone
  · rw [enabled, List.getElem?_eq_getElem hj]
    exact hplugin

/-! ### Calls one after another -/

/-- The calls of one mask are the steps of the abstract machine. -/
lemma map_plugin_getNextLCDScreenBuffers (h : Loaded m) {calls : List LCDCall}
    (hcalls : ∀ call ∈ calls, call.LCDPluginsMask1 = mask) :
    (getNextLCDScreenBuffers calls m).1.map LCDShown.plugin =
      (m.view.steps m.plugins.length m.maxFrames (m.enabled mask)
        (calls.map fun call => call.LCDKey = LCD_KEY_L2)).1 := by
  induction calls generalizing m with
  | nil => rfl
  | cons call calls ih =>
    obtain ⟨hmask, hrest⟩ := List.forall_mem_cons.mp hcalls
    have hfollows := follows_getNextLCDScreenBuffer h call
    have hloaded := loaded_getNextLCDScreenBuffer h call
    have hnext := @ih (m.getNextLCDScreenBuffer call).2 hloaded hrest
    rw [hfollows.same.length, funext hfollows.same.maxFrames,
      funext (hfollows.same.enabled mask), hfollows.view, hmask] at hnext
    rw [getNextLCDScreenBuffers, List.map_cons, List.map_cons, LCDView.steps, ← hnext,
      hfollows.shows.plugin, hmask]

/-- The plugins that have a turn when the mask stays the same and no plugin is locked: the current
one for the rest of its frames, and then the enabled ones in their order, each one for all its
frames. -/
def expectedTurns (m : LCDScreenPluginsManager) (mask : UInt64) (rest k : ℕ) : List ℕ :=
  (List.replicate rest m.itCurrentPlugin ++
    allTurns (LCDView.follow m.plugins.length (m.enabled mask)) (fun i => (m.maxFrames i).toNat)
      m.itCurrentPlugin k).take k

lemma jumpToNextPlugin_eq (h : Loaded m) :
    m.jumpToNextPlugin =
      { m with currentPluginLocked := false, frameCounter := m.maxFrames m.itCurrentPlugin } := by
  rw [jumpToNextPlugin, h.noPlugins, if_neg Bool.false_ne_true, maxFrames,
    List.getElem?_eq_getElem h.current_lt]
  rfl

lemma getPluginMaxFrames_bounds (plugin : LCDPlugin) :
    10 ≤ plugin.getPluginMaxFrames.toNat ∧ plugin.getPluginMaxFrames.toNat ≤ 20 := by
  rw [LCDPlugin.getPluginMaxFrames]
  cases plugin.pluginTempo <;> decide

lemma maxFrames_le (m : LCDScreenPluginsManager) (i : ℕ) : (m.maxFrames i).toNat ≤ 20 := by
  rw [maxFrames]
  rcases m.plugins[i]? with _ | plugin
  · exact Nat.zero_le _
  · exact (getPluginMaxFrames_bounds plugin).2

lemma maxFrames_pos (hlt : i < m.plugins.length) : 0 < (m.maxFrames i).toNat := by
  rw [maxFrames, List.getElem?_eq_getElem hlt]
  exact Nat.lt_of_lt_of_le (by decide) (getPluginMaxFrames_bounds _).1

lemma map_plugin_unlocked (h : Loaded m) (hmask : ∃ j < m.plugins.length, m.enabled mask j = true)
    (hunlocked : m.currentPluginLocked = false) {calls : List LCDCall}
    (hcalls : ∀ call ∈ calls, call.LCDPluginsMask1 = mask ∧ call.LCDKey ≠ LCD_KEY_L2) :
    (getNextLCDScreenBuffers calls m).1.map LCDShown.plugin =
      (m.expectedTurns mask (m.view.remaining m.maxFrames) calls.length).map some := by
  have hkeys : (calls.map fun call => decide (call.LCDKey = LCD_KEY_L2)) =
      List.replicate calls.length false :=
    List.map_eq_replicate_iff.mpr fun call hcall => decide_eq_false (hcalls call hcall).2
  have hlength : ∀ i,
      0 < (m.maxFrames (LCDView.follow m.plugins.length (m.enabled mask) i)).toNat := fun i =>
    maxFrames_pos
      (next_spec (Nat.zero_lt_of_lt h.current_lt) (LCDView.next_eq_follow hmask i)).1
  rw [map_plugin_getNextLCDScreenBuffers h fun call hcall => (hcalls call hcall).1, hkeys,
    LCDView.steps_eq_turns hmask m.maxFrames_le _ hunlocked, turns_eq_take hlength]
  rfl

end LCDScreenPluginsManager

open LCDScreenPluginsManager

/-- While the mask stays the same and no plugin is locked, the plugin that is current is shown until
its frames are over, and then the enabled plugins are shown in their order, each one for all of its
frames. After a jump the next enabled plugin is shown at once, and no search goes on too long. -/
theorem getNextLCDScreenBuffers_turns (plugins : List (Option LCDPlugin))
    (m : LCDScreenPluginsManager) (hm : LCDScreenPluginsManager.Reachable plugins m) (mask : UInt64)
    (hmask : m.findOneLCDScreenPlugin mask = true) (hunlocked : m.currentPluginLocked = false)
    (calls : List LCDCall)
    (hcalls : ∀ call ∈ calls, call.LCDPluginsMask1 = mask ∧ call.LCDKey ≠ LCD_KEY_L2) :
    (m.getNextLCDScreenBuffers calls).1.map LCDShown.plugin =
      (m.expectedTurns mask ((m.maxFrames m.itCurrentPlugin).toNat - (m.frameCounter + 1).toNat)
        calls.length).map some ∧
    (m.jumpToNextPlugin.getNextLCDScreenBuffers calls).1.map LCDShown.plugin =
      (m.expectedTurns mask 0 calls.length).map some ∧
    ∀ call, (m.getNextLCDScreenBuffer call).1 ≠ .searching := by
  obtain ⟨hloaded, henabled⟩ := hm.ready.loaded hmask
  have hjump := jumpToNextPlugin_eq hloaded
  have hover : LCDView.remaining m.maxFrames m.jumpToNextPlugin.view = 0 := by
    have hbound := m.maxFrames_le m.itCurrentPlugin
    have hcounter := @LCDView.toNat_add_one (m.maxFrames m.itCurrentPlugin) (by omega)
    rw [hjump]
    change (m.maxFrames m.itCurrentPlugin).toNat - (m.maxFrames m.itCurrentPlugin + 1).toNat = 0
    omega
  refine ⟨map_plugin_unlocked hloaded henabled hunlocked hcalls, ?_, fun call =>
    (follows_getNextLCDScreenBuffer hloaded call).shows.ne_searching⟩
  have hjumped : Loaded m.jumpToNextPlugin := by
    rw [hjump]
    exact ⟨hloaded.noPlugins, hloaded.current_lt⟩
  rw [← hover]
  rw [hjump] at hjumped ⊢
  exact map_plugin_unlocked hjumped henabled rfl hcalls

/-- A plugin with one frame. -/
def plugin (pluginID : UInt64) (pluginTempo : LCDPluginTempo) : Option LCDPlugin :=
  some { pluginID, pluginTempo, PBMFrames := [1], current_lt := Nat.zero_lt_one }

/-- The splash screen and the system monitor. -/
def twoPlugins : List (Option LCDPlugin) :=
  [plugin GK_LCD_SPLASHSCREEN .TEMPO_400_15, plugin GK_LCD_SYSTEM_MONITOR .TEMPO_500_20]

/-- A call without key whose plugin shows an empty frame. -/
def emptyCall (LCDPluginsMask1 : UInt64) : LCDCall where
  LCDKey := ""
  LCDPluginsMask1 := LCDPluginsMask1
  getNextPBMFrame := fun _ _ => .ok []

/-- With both plugins enabled the splash screen is shown first, then the system monitor, and then the
splash screen again. -/
theorem getNextLCDScreenBuffers_turns_two :
    ((new twoPlugins).getNextLCDScreenBuffers (List.replicate 36 (emptyCall 3))).1.map
        LCDShown.plugin =
      (List.replicate 14 0 ++ List.replicate 20 1 ++ List.replicate 2 0).map some := by
  have hturns := (getNextLCDScreenBuffers_turns twoPlugins (new twoPlugins) .refl 3 (by decide) rfl
    (List.replicate 36 (emptyCall 3)) fun call hcall => by
      rw [List.eq_of_mem_replicate hcall]
      decide).1
  exact hturns.trans (by decide)

/-- A new manager shows the splash screen also when only the system monitor is enabled. -/
theorem not_enabled_first : ¬ ∀ (plugins : List (Option LCDPlugin)) (m : LCDScreenPluginsManager),
    LCDScreenPluginsManager.Reachable plugins m → ∀ mask : UInt64,
    m.findOneLCDScreenPlugin mask = true → m.currentPluginLocked = false →
    ∀ calls : List LCDCall,
      (∀ call ∈ calls, call.LCDPluginsMask1 = mask ∧ call.LCDKey ≠ LCD_KEY_L2) →
      ∀ shown ∈ (m.getNextLCDScreenBuffers calls).1, ∀ i, shown.plugin = some i →
        m.enabled mask i = true := by
  intro hall
  have henabled := hall twoPlugins (new twoPlugins) .refl 2 (by decide) rfl [emptyCall 2]
    (by decide) (.drawn 0) (by decide) 0 rfl
  exact absurd henabled (by decide)

end GLogiK
