import GLogiK.Keyboard.Device
import GLogiK.Macro.Balanced

/-!
# The virtual keyboard

The desktop service plays the macros of the G-keys on a uinput device. An event is written with a
report behind it, so that the applications see it at once. The kernel drops the key codes that
were not enabled when the device was created.
-/

namespace GLogiK

/-! ### The uinput device -/

/-- The first and last codes that the constructor enables: `KEY_ESC` to `KEY_KPDOT`,
`KEY_ZENKAKUHANKAKU` to `KEY_F24` and `KEY_PLAYCD` to `KEY_MICMUTE`. -/
def enabledEventCodes : List (UInt8 × UInt8) := [(1, 83), (85, 194), (200, 248)]

def codeEnabled (code : UInt8) : Bool :=
  enabledEventCodes.any fun codes => codes.1 ≤ code ∧ code ≤ codes.2

/-- What is done with the uinput device. A sleep is in milliseconds. -/
inductive UInputAction
  | sleep (interval : UInt16)
  | writeKey (key : KeyEvent)
  | writeReport
  deriving DecidableEq, Repr

/-- How the two writes of an event end. -/
inductive WriteResult
  | written
  | reportFails
  | keyFails
  deriving DecidableEq, Repr

/-- `actions` only remembers, oldest first. -/
structure VirtualKeyboard where
  actions : List UInputAction := []

namespace VirtualKeyboard

/-- A short interval is not slept, and a failure is only logged. -/
def keyActions (key : KeyEvent) (result : WriteResult) : List UInputAction :=
  (if 20 < key.interval then [.sleep key.interval] else []) ++
    match result with
    | .written     => [.writeKey key, .writeReport]
    | .reportFails => [.writeKey key]
    | .keyFails    => []

def sendKeyEvent (keyboard : VirtualKeyboard) (key : KeyEvent) (result : WriteResult) :
    VirtualKeyboard :=
  { keyboard with actions := keyboard.actions ++ keyActions key result }

/-- The loop of `runEvent` over a macro; `results` are the results of its events. -/
def sendMacro (keyboard : VirtualKeyboard) (results : ℕ → WriteResult) (events : MacroType) :
    VirtualKeyboard :=
  events.zipIdx.foldl (fun keyboard key => keyboard.sendKeyEvent key.1 (results key.2)) keyboard

/-- The key events that the kernel does not drop. -/
def seenKey : UInputAction → Option KeyEvent
  | .writeKey key => if codeEnabled key.code then some key else none
  | _             => none

/-- What the applications see of the actions. -/
def seen (actions : List UInputAction) : MacroType := actions.filterMap seenKey

/-- The keys of the virtual keyboard that are down. -/
def down (keyboard : VirtualKeyboard) : Finset UInt8 := replay (seen keyboard.actions)

/-! ### What a macro does -/

lemma seen_append (actions actions' : List UInputAction) :
    seen (actions ++ actions') = seen actions ++ seen actions' := List.filterMap_append

lemma seen_cons (action : UInputAction) (actions : List UInputAction) :
    seen (action :: actions) = (seenKey action).toList ++ seen actions := by
  rw [seen, seen, List.filterMap_cons]
  cases seenKey action <;> rfl

lemma seen_keyActions (key : KeyEvent) {result : WriteResult} (h : result ≠ .keyFails) :
    seen (keyActions key result) = if codeEnabled key.code then [key] else [] := by
  have hsleep : seen (if 20 < key.interval then [.sleep key.interval] else []) = [] := by
    split_ifs
    · rfl
    · rfl
  have hwrites : ∀ actions, seen (.writeKey key :: actions) =
      (if codeEnabled key.code then [key] else []) ++ seen actions := by
    intro actions
    rw [seen_cons, seenKey]
    split_ifs
    · rfl
    · rfl
  cases result with
  | written     => rw [keyActions.eq_def, seen_append, hsleep, hwrites]; exact List.append_nil _
  | reportFails => rw [keyActions.eq_def, seen_append, hsleep, hwrites]; exact List.append_nil _
  | keyFails    => exact absurd rfl h

lemma actions_foldl_sendKeyEvent (keys : List (KeyEvent × ℕ)) (results : ℕ → WriteResult)
    (keyboard : VirtualKeyboard) :
    (keys.foldl (fun keyboard key => keyboard.sendKeyEvent key.1 (results key.2))
        keyboard).actions =
      keyboard.actions ++ keys.flatMap fun key => keyActions key.1 (results key.2) := by
  induction keys generalizing keyboard with
  | nil => simp
  | cons key keys ih =>
    rw [List.foldl_cons, ih, sendKeyEvent, List.flatMap_cons, List.append_assoc]

/-- The applications see the events of the macro in order, apart from the codes that are not
enabled. -/
lemma seen_sendMacro {results : ℕ → WriteResult} (h : ∀ i, results i ≠ .keyFails)
    (keyboard : VirtualKeyboard) (events : MacroType) :
    seen (keyboard.sendMacro results events).actions =
      seen keyboard.actions ++ events.filter fun key => codeEnabled key.code := by
  rw [sendMacro, actions_foldl_sendKeyEvent, seen_append]
  congr 1
  have hkeys : ∀ keys : List (KeyEvent × ℕ),
      seen (keys.flatMap fun key => keyActions key.1 (results key.2)) =
        (keys.map Prod.fst).filter fun key => codeEnabled key.code := by
    intro keys
    induction keys with
    | nil => rfl
    | cons key keys ih =>
      rw [List.flatMap_cons, seen_append, ih, seen_keyActions key.1 (h key.2), List.map_cons,
        List.filter_cons]
      split_ifs
      · rfl
      · rfl
  rw [hkeys, List.zipIdx_map_fst]

/-- The keys of some codes, after an event. -/
lemma play_filter (p : UInt8 → Bool) (key : KeyEvent) (keys : Finset UInt8) :
    (key.play keys).filter (fun code => p code) =
      if p key.code then key.play (keys.filter fun code => p code)
      else keys.filter fun code => p code := by
  match h : key.event with
  | .eventKeyPress =>
    simp only [KeyEvent.play, h, Finset.filter_insert]
  | .eventKeyRelease =>
    simp only [KeyEvent.play, h, Finset.filter_erase]
    split_ifs with hcode
    · rfl
    · exact Finset.erase_eq_of_notMem fun hmem => hcode (Finset.mem_filter.mp hmem).2
  | .eventKeyUnknown =>
    simp only [KeyEvent.play, h, ite_self]

/-- Dropping the events of some codes leaves the other keys as they are. -/
lemma foldl_play_filter (p : UInt8 → Bool) (events : MacroType) (keys : Finset UInt8) :
    (events.filter fun key => p key.code).foldl KeyEvent.play (keys.filter fun code => p code) =
      (events.foldl KeyEvent.play keys).filter fun code => p code := by
  induction events generalizing keys with
  | nil => rfl
  | cons key events ih =>
    rw [List.filter_cons, List.foldl_cons, ← ih, play_filter]
    split_ifs
    · rfl
    · rfl

/-- When no key is down, those that stay down are those of the macro. -/
lemma down_sendMacro {keyboard : VirtualKeyboard} {results : ℕ → WriteResult}
    (hdown : keyboard.down = ∅) (h : ∀ i, results i ≠ .keyFails) (events : MacroType) :
    (keyboard.sendMacro results events).down =
      (replay events).filter fun code => codeEnabled code := by
  have hfilter := foldl_play_filter codeEnabled events ∅
  rw [down, replay] at hdown
  rw [down, replay, seen_sendMacro h, List.foldl_append, hdown, replay, ← hfilter,
    Finset.filter_empty]

end VirtualKeyboard

/-! ### The codes of the reports -/

/-- The codes that a recording can have are enabled, apart from `KEY_RESERVED`. -/
lemma codeEnabled_hidKeyboard (usage : UInt8) (h : hidKeyboard usage ≠ 0) :
    codeEnabled (hidKeyboard usage) := by
  have hall : ∀ n < 256, hidKeyboard (.ofNat n) ≠ 0 → codeEnabled (hidKeyboard (.ofNat n)) := by
    decide +kernel
  have husage : UInt8.ofNat usage.toNat = usage := UInt8.ofNat_toNat
  rw [← husage] at h ⊢
  exact hall usage.toNat usage.toNat_lt h

end GLogiK
