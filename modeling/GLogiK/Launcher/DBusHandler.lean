import GLogiK.Base
import GLogiK.Lib.Run
import GLogiK.Lib.Throttle

/-!
# The launcher of the desktop service

The launcher of a session receives requests to start the desktop service, from the GUI and from a
service that is about to end. It sleeps for the time the request asks for and spawns the service,
unless it has tried to within the last ten seconds. A request is handled to its end, the end of the
spawned process included, before the next one is looked at.
-/

namespace GLogiK

namespace Launcher

/-- The ticks of the steady clock in a millisecond. -/
def milliseconds (n : ℕ) : ℤ := n * 1000000

/-- The ticks of the steady clock in a second. -/
def seconds (n : ℕ) : ℤ := n * 1000000000

/-- How a request goes on: it comes after a time in which the launcher has nothing to do, the sleep
may last longer than asked for, the executable may be missing, and the process runs for a time. -/
structure ServiceStartRequest where
  timelapse : UInt16
  idle : ℕ := 0
  overslept : ℕ := 0
  executable : Bool := true
  runs : ℕ := 0
  deriving DecidableEq, Repr

/-- `now` is what the steady clock shows. Of each try to spawn the service, `calls` has the time and
whether there was an executable. -/
structure DBusHandler where
  now : ℤ
  lastCall : ℤ
  calls : List (ℤ × Bool) := []
  deriving DecidableEq, Repr

namespace DBusHandler

variable (handler : DBusHandler) (request first : ServiceStartRequest)
  (requests : List ServiceStartRequest)

def tenSeconds : ℤ := seconds 10

/-- When the time lapse since the last call is measured. -/
def awake : ℤ :=
  handler.now + request.idle + milliseconds request.timelapse.toNat + request.overslept

/-- The last call is set before the executable is looked for. -/
def spawnService : DBusHandler :=
  let now := handler.awake request
  if tenSeconds < now - handler.lastCall then
    { now := if request.executable then now + request.runs else now, lastCall := now,
      calls := handler.calls ++ [(now, request.executable)] }
  else { handler with now := now }

/-- The constructor sets the last call before it spawns the service on start. -/
def starting (now : ℤ) : DBusHandler := { now := now, lastCall := now - seconds 11 }

/-- The call of the constructor. -/
def onStart : ServiceStartRequest := { first with timelapse := 100, idle := 0 }

/-- The launcher, from its constructor on. -/
def launch (now : ℤ) : DBusHandler :=
  Run.run spawnService (starting now) (onStart first :: requests)

/-- The times at which the time lapses are measured. -/
def awakes : DBusHandler → List ServiceStartRequest → List ℤ
  | _, []                        => []
  | handler, request :: requests =>
    handler.awake request :: awakes (handler.spawnService request) requests

@[simp] lemma awakes_nil : handler.awakes [] = [] := rfl

@[simp] lemma awakes_cons :
    handler.awakes (request :: requests) =
      handler.awake request :: (handler.spawnService request).awakes requests := rfl

/-! ### One request -/

lemma spawnService_of_lt (h : tenSeconds < handler.awake request - handler.lastCall) :
    handler.spawnService request =
      { now := if request.executable then handler.awake request + request.runs
          else handler.awake request,
        lastCall := handler.awake request,
        calls := handler.calls ++ [(handler.awake request, request.executable)] } := if_pos h

lemma spawnService_of_not_lt (h : ¬ tenSeconds < handler.awake request - handler.lastCall) :
    handler.spawnService request = { handler with now := handler.awake request } := if_neg h

lemma now_le_awake : handler.now ≤ handler.awake request := by
  simp only [awake, milliseconds]
  omega

lemma awake_le_now : handler.awake request ≤ (handler.spawnService request).now := by
  by_cases h : tenSeconds < handler.awake request - handler.lastCall
  · rw [spawnService_of_lt handler request h]
    dsimp only
    split_ifs
    · exact Int.le_add_of_nonneg_right (Int.natCast_nonneg request.runs)
    · exact le_rfl
  · rw [spawnService_of_not_lt handler request h]

/-! ### Runs -/

/-- The times of the calls are the accepted ones. -/
lemma calls_run :
    (Run.run spawnService handler requests).calls.map Prod.fst =
      handler.calls.map Prod.fst ++
        Throttle.accepted tenSeconds handler.lastCall (handler.awakes requests) := by
  induction requests generalizing handler with
  | nil => simp
  | cons request requests ih =>
    rw [Run.run_cons, ih, awakes_cons]
    by_cases h : tenSeconds < handler.awake request - handler.lastCall
    · rw [Throttle.accepted_cons_of_lt h, spawnService_of_lt handler request h]
      simp
    · rw [Throttle.accepted_cons_of_not_lt h, spawnService_of_not_lt handler request h]

lemma now_le_run : handler.now ≤ (Run.run spawnService handler requests).now := by
  induction requests generalizing handler with
  | nil => exact le_rfl
  | cons request requests ih =>
    calc handler.now ≤ handler.awake request := handler.now_le_awake request
      _ ≤ (handler.spawnService request).now := handler.awake_le_now request
      _ ≤ (Run.run spawnService handler (request :: requests)).now := ih _

lemma le_of_mem_awakes :
    ∀ t ∈ handler.awakes requests,
      handler.now ≤ t ∧ t ≤ (Run.run spawnService handler requests).now := by
  induction requests generalizing handler with
  | nil => simp
  | cons request requests ih =>
    have hbefore := handler.now_le_awake request
    have hafter := handler.awake_le_now request
    intro t ht
    rcases List.mem_cons.mp ht with rfl | ht
    · exact ⟨hbefore, hafter.trans (now_le_run _ requests)⟩
    · obtain ⟨hnow, hrun⟩ := ih (handler.spawnService request) t ht
      exact ⟨hbefore.trans (hafter.trans hnow), hrun⟩

lemma awakes_sorted : (handler.awakes requests).Pairwise (· ≤ ·) := by
  induction requests generalizing handler with
  | nil => exact List.Pairwise.nil
  | cons request requests ih =>
    refine List.pairwise_cons.mpr ⟨fun t ht => ?_, ih _⟩
    exact (handler.awake_le_now request).trans (le_of_mem_awakes _ requests t ht).1

/-! ### The launcher -/

/-- The call of the constructor is never ignored. -/
lemma tenSeconds_lt_onStart (now : ℤ) :
    tenSeconds < (starting now).awake (onStart first) - (starting now).lastCall := by
  simp only [tenSeconds, awake, starting, onStart, milliseconds, seconds]
  omega

lemma calls_launch (now : ℤ) :
    (launch first requests now).calls.map Prod.fst =
      (starting now).awake (onStart first) ::
        Throttle.accepted tenSeconds ((starting now).awake (onStart first))
          (((starting now).spawnService (onStart first)).awakes requests) := by
  rw [launch, calls_run, awakes_cons,
    Throttle.accepted_cons_of_lt (tenSeconds_lt_onStart first now)]
  rfl

/-- The launcher tries to spawn the service at times that lie more than ten seconds apart, so about
once in ten seconds at most, and whenever it looks at a request it has tried to within the last ten
seconds. -/
theorem launch_calls (now : ℤ) :
    let launched : DBusHandler := launch first requests now
    let calls := launched.calls.map Prod.fst
    calls.Pairwise (fun t t' => seconds 10 < t' - t) ∧
      calls.length * seconds 10 ≤ launched.now - now + seconds 10 ∧
      ∀ t ∈ (starting now).awakes (onStart first :: requests),
        ∃ t' ∈ calls, t' ≤ t ∧ t - t' ≤ seconds 10 := by
  intro launched calls
  have hwindow : 0 ≤ tenSeconds := by decide
  set t₀ := (starting now).awake (onStart first) with ht₀
  set handler := (starting now).spawnService (onStart first) with hhandler
  have hcalls : calls = t₀ :: Throttle.accepted tenSeconds t₀ (handler.awakes requests) :=
    calls_launch first requests now
  have hnow : now ≤ t₀ := (starting now).now_le_awake (onStart first)
  have hstart : t₀ ≤ handler.now := (starting now).awake_le_now (onStart first)
  have hafter : ∀ t ∈ handler.awakes requests, t₀ ≤ t ∧ t ≤ launched.now := by
    intro t ht
    obtain ⟨hle, hrun⟩ := handler.le_of_mem_awakes requests t ht
    exact ⟨hstart.trans hle, hrun⟩
  rw [hcalls]
  refine ⟨Throttle.accepted_pairwise hwindow, ?_, ?_⟩
  · have hlatest : Throttle.latest tenSeconds t₀ (handler.awakes requests) ≤ launched.now :=
      Throttle.latest_le (hstart.trans (handler.now_le_run requests)) fun t ht => (hafter t ht).2
    have hlength := Throttle.nsmul_length_accepted_le tenSeconds t₀ (handler.awakes requests)
    rw [nsmul_eq_mul] at hlength
    rw [List.length_cons, Nat.cast_succ, add_mul, one_mul]
    have hcount := hlength.trans (sub_le_sub hlatest hnow)
    exact add_le_add_left hcount (seconds 10)
  · intro t ht
    rw [awakes_cons] at ht
    rcases List.mem_cons.mp ht with rfl | ht
    · exact ⟨t₀, List.mem_cons_self, le_rfl, by simp [seconds, ← ht₀]⟩
    · have hsorted : (t₀ :: handler.awakes requests).Pairwise (· ≤ ·) :=
        List.pairwise_cons.mpr ⟨fun u hu => (hafter u hu).1, handler.awakes_sorted requests⟩
      exact Throttle.exists_accepted_near hwindow hsorted t ht

end DBusHandler

end Launcher

end GLogiK
