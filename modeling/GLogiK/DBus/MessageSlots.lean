import GLogiK.Lib.Run
import Mathlib.Data.List.Sublists

/-!
# Messages that threads build

A signal or a remote method call is allocated, its arguments are appended one by one, and deleting
it sends it. `GKDBus` has one place for it, which the main thread of the daemon shares with the
listening threads of all devices, and no lock guards it.
-/

namespace GLogiK

variable {α : Type*}

/-! ### The place -/

/-- A message, with the arguments that were appended. -/
structure BuiltMessage (α : Type*) where
  member : String
  args : List α := []
  hosedMessage : Bool := false
  deriving DecidableEq

/-- The pointer to the message that is built. `sent` only remembers, oldest first. -/
structure MessageSlot (α : Type*) where
  message : Option (BuiltMessage α) := none
  sent : List (String × List α) := []
  deriving DecidableEq

/-- The texts of `GKDBusMessageWrongBuild`, for a message that is there already and for one that is
not. -/
structure SlotTexts where
  allocated : String
  null : String

def broadcastSignalTexts : SlotTexts where
  allocated := "DBus signal already allocated"
  null      := "tried to send NULL signal"

def remoteMethodCallTexts : SlotTexts where
  allocated := "DBus remote_method_call already allocated"
  null      := "tried to send NULL remote method call"

namespace MessageSlot

variable (slot : MessageSlot α) (texts : SlotTexts)

/-- The destructor of the message: one that is hosed is not sent. `delivered` is the answer of
libdbus. -/
def delete (message : BuiltMessage α) (delivered : Bool) : MessageSlot α where
  message := none
  sent := slot.sent ++
    if !message.hosedMessage && delivered then [(message.member, message.args)] else []

/-- `failure` is the exception of the constructor. -/
def allocate (member : String) (failure : Option String) : MessageSlot α × Except String Unit :=
  if slot.message.isSome then (slot, .error texts.allocated)
  else
    match failure with
    | some text => (slot, .error text)
    | none      => ({ slot with message := some { member } }, .ok ())

/-- Without a message, nothing is appended. -/
def append (value : α) (failure : Option String) : MessageSlot α × Except String Unit :=
  match slot.message with
  | none => (slot, .ok ())
  | some message =>
    match failure with
    | some text => ({ slot with message := some { message with hosedMessage := true } }, .error text)
    | none =>
      ({ slot with message := some { message with args := message.args ++ [value] } }, .ok ())

def send (delivered : Bool) : MessageSlot α × Except String Unit :=
  match slot.message with
  | none         => (slot, .error texts.null)
  | some message => (slot.delete message delivered, .ok ())

def abandon : MessageSlot α :=
  match slot.message with
  | none         => slot
  | some message => slot.delete { message with hosedMessage := true } true

/-! ### The functions of the messages -/

def initializeBroadcastSignal : String → Option String → MessageSlot α × Except String Unit :=
  slot.allocate broadcastSignalTexts

def appendToBroadcastSignal : α → Option String → MessageSlot α × Except String Unit := slot.append

def sendBroadcastSignal : Bool → MessageSlot α × Except String Unit :=
  slot.send broadcastSignalTexts

def abandonBroadcastSignal : MessageSlot α := slot.abandon

def initializeRemoteMethodCall : String → Option String → MessageSlot α × Except String Unit :=
  slot.allocate remoteMethodCallTexts

def appendToRemoteMethodCall : α → Option String → MessageSlot α × Except String Unit := slot.append

def sendRemoteMethodCall : Bool → MessageSlot α × Except String Unit :=
  slot.send remoteMethodCallTexts

def abandonRemoteMethodCall : MessageSlot α := slot.abandon

end MessageSlot

/-! ### The threads -/

/-- Where a thread is that sends messages: it has arguments left to append, or it has caught an
exception and will abandon. -/
inductive SenderPhase (α : Type*)
  | idle
  | building (member : String) (appended rest : List α)
  | failed
  deriving DecidableEq

/-- `begun` only remembers what the threads wanted to send. -/
structure Senders (ι α : Type*) where
  slot : MessageSlot α := {}
  phase : ι → SenderPhase α := fun _ => .idle
  begun : List (String × List α) := []

/-- The next step of a thread. -/
inductive SenderEvent (ι α : Type*)
  | starts (i : ι) (member : String) (args : List α) (failure : Option String)
  | append (i : ι) (failure : Option String)
  | send (i : ι) (delivered : Bool)
  | abandon (i : ι)

/-- Nothing throws, and libdbus takes the message. -/
def SenderEvent.Succeeds {ι : Type*} : SenderEvent ι α → Prop
  | .starts _ _ _ failure | .append _ failure => failure = none
  | .send _ delivered                         => delivered
  | .abandon _                                => True

namespace Senders

variable {ι : Type*} [DecidableEq ι] (texts : SlotTexts)

def setPhase (s : Senders ι α) (i : ι) (slot : MessageSlot α) (phase : SenderPhase α) :
    Senders ι α :=
  { s with slot, phase := Function.update s.phase i phase }

/-- The phase after a function that may throw. -/
def phaseAfter (result : Except String Unit) (phase : SenderPhase α) : SenderPhase α :=
  match result with
  | .ok _    => phase
  | .error _ => .failed

/-- A thread is in its `try` block, or in the `catch` block behind it. -/
def step (s : Senders ι α) : SenderEvent ι α → Senders ι α
  | .starts i member args failure =>
    match s.phase i with
    | .idle =>
      let r := s.slot.allocate texts member failure
      { s.setPhase i r.1 (phaseAfter r.2 (.building member [] args)) with
        begun := s.begun ++ [(member, args)] }
    | _ => s
  | .append i failure =>
    match s.phase i with
    | .building member appended (value :: rest) =>
      let r := s.slot.append value failure
      s.setPhase i r.1 (phaseAfter r.2 (.building member (appended ++ [value]) rest))
    | _ => s
  | .send i delivered =>
    match s.phase i with
    | .building _ _ [] =>
      let r := s.slot.send texts delivered
      s.setPhase i r.1 (phaseAfter r.2 .idle)
    | _ => s
  | .abandon i =>
    match s.phase i with
    | .failed => s.setPhase i s.slot.abandon .idle
    | _       => s

variable {s : Senders ι α} {texts : SlotTexts}

@[simp] lemma phase_setPhase_self {i : ι} {slot : MessageSlot α} {phase : SenderPhase α} :
    (s.setPhase i slot phase).phase i = phase := by
  simp only [setPhase, Function.update_self]

lemma phase_setPhase_of_ne {i j : ι} (hne : j ≠ i) {slot : MessageSlot α}
    {phase : SenderPhase α} : (s.setPhase i slot phase).phase j = s.phase j := by
  simp only [setPhase, Function.update_of_ne hne]

/-- What the functions do for the thread whose message is there. -/
lemma slot_append_of_own {member : String} {appended : List α} {slot : MessageSlot α}
    (h : slot.message = some { member, args := appended }) (value : α) (failure : Option String) :
    (failure = none ∧ slot.append value failure =
        ({ slot with message := some { member, args := appended ++ [value] } }, .ok ())) ∨
      ∃ text, failure = some text ∧ slot.append value failure =
        ({ slot with message := some { member, args := appended, hosedMessage := true } },
          .error text) := by
  cases failure with
  | none => exact Or.inl ⟨rfl, by simp only [MessageSlot.append, h]⟩
  | some text => exact Or.inr ⟨text, rfl, by simp only [MessageSlot.append, h]⟩

lemma slot_send_of_own {member : String} {appended : List α} {slot : MessageSlot α}
    (h : slot.message = some { member, args := appended }) (delivered : Bool) :
    slot.send texts delivered =
      ({ message := none
         sent := slot.sent ++ if delivered then [(member, appended)] else [] }, .ok ()) := by
  simp only [MessageSlot.send, h, MessageSlot.delete]
  rfl

omit [DecidableEq ι] in
/-- A thread that abandons leaves no message. -/
lemma message_abandon (slot : MessageSlot α) : slot.abandon.message = none := by
  rw [MessageSlot.abandon]
  cases h : slot.message with
  | none => exact h
  | some message => rfl

lemma sent_abandon (slot : MessageSlot α) : slot.abandon.sent = slot.sent := by
  rw [MessageSlot.abandon]
  cases slot.message with
  | none => rfl
  | some message => simp [MessageSlot.delete]

/-! ### Messages of their own -/

/-- The thread is building a message. -/
def Builds (s : Senders ι α) (i : ι) : Prop :=
  ∃ member appended rest, s.phase i = .building member appended rest

/-- Each thread that is building a message finds it in the place, with what it has appended. -/
def FindsOwn (s : Senders ι α) : Prop :=
  ∀ i member appended rest, s.phase i = .building member appended rest →
    s.slot.message = some { member, args := appended }

/-- No thread abandons while another one is building. -/
def Spares (s : Senders ι α) : SenderEvent ι α → Prop
  | .abandon i => s.phase i = .failed → ∀ j, ¬ s.Builds j
  | _          => True

/-- There is one place, so one thread is building. -/
def OneBuilds (s : Senders ι α) : Prop := ∀ i j, s.Builds i → s.Builds j → i = j

omit [DecidableEq ι] in
lemma FindsOwn.not_builds (h : s.FindsOwn) (hnone : s.slot.message = none) (i : ι) :
    ¬ s.Builds i := by
  rintro ⟨member, appended, rest, hphase⟩
  rw [h i member appended rest hphase] at hnone
  cases hnone

lemma builds_setPhase {i j : ι} {slot : MessageSlot α} {phase : SenderPhase α}
    (h : (s.setPhase i slot phase).Builds j) :
    j = i ∧ (∃ member appended rest, phase = .building member appended rest) ∨
      j ≠ i ∧ s.Builds j := by
  by_cases hsame : j = i
  · rw [hsame, Builds, phase_setPhase_self] at h
    exact .inl ⟨hsame, h⟩
  · rw [Builds, phase_setPhase_of_ne hsame] at h
    exact .inr ⟨hsame, h⟩

/-- The thread goes on with a message, and no other one has one. -/
lemma findsOwn_setPhase {i : ι} (hothers : ∀ j ≠ i, ¬ s.Builds j) (slot : MessageSlot α)
    (phase : SenderPhase α)
    (hown : ∀ member appended rest, phase = .building member appended rest →
      slot.message = some { member, args := appended }) :
    (s.setPhase i slot phase).FindsOwn ∧ (s.setPhase i slot phase).OneBuilds := by
  have honly : ∀ j, (s.setPhase i slot phase).Builds j → j = i := by
    intro j hj
    rcases builds_setPhase hj with ⟨hsame, -⟩ | ⟨hne, hbuilds⟩
    · exact hsame
    · exact absurd hbuilds (hothers j hne)
  refine ⟨fun j member appended rest hphase => ?_, fun j k hj hk => ?_⟩
  · rw [honly j ⟨member, appended, rest, hphase⟩, phase_setPhase_self] at hphase
    exact hown member appended rest hphase
  · exact (honly j hj).trans (honly k hk).symm

/-- The thread goes on without a message, and leaves the place as it is. -/
lemma findsOwn_setPhase_same (h : s.FindsOwn) (hone : s.OneBuilds) {i : ι}
    (phase : SenderPhase α)
    (hphase : ∀ member appended rest, phase ≠ .building member appended rest) :
    (s.setPhase i s.slot phase).FindsOwn ∧ (s.setPhase i s.slot phase).OneBuilds := by
  have hbuilds : ∀ j, (s.setPhase i s.slot phase).Builds j → j ≠ i ∧ s.Builds j := by
    intro j hj
    rcases builds_setPhase hj with ⟨-, member, appended, rest, hbuilding⟩ | hbuilds
    · exact absurd hbuilding (hphase member appended rest)
    · exact hbuilds
  refine ⟨fun j member appended rest hj => ?_, fun j k hj hk => ?_⟩
  · have hne := (hbuilds j ⟨member, appended, rest, hj⟩).1
    rw [phase_setPhase_of_ne hne] at hj
    exact h j member appended rest hj
  · exact hone j k (hbuilds j hj).2 (hbuilds k hk).2

lemma findsOwn_starts (h : s.FindsOwn) (hone : s.OneBuilds) (i : ι) (member : String)
    (args : List α) (failure : Option String) :
    (s.step texts (.starts i member args failure)).FindsOwn ∧
      (s.step texts (.starts i member args failure)).OneBuilds := by
  simp only [step]
  split
  · cases hslot : s.slot.message with
    | some message =>
      have hr : s.slot.allocate texts member failure = (s.slot, .error texts.allocated) := by
        simp [MessageSlot.allocate, hslot]
      rw [hr]
      exact findsOwn_setPhase_same h hone .failed nofun
    | none =>
      have hothers := h.not_builds hslot
      cases failure with
      | some text =>
        have hr : s.slot.allocate texts member (some text) = (s.slot, .error text) := by
          simp [MessageSlot.allocate, hslot]
        rw [hr]
        exact findsOwn_setPhase (fun j _ => hothers j) s.slot .failed (fun _ _ _ h => by cases h)
      | none =>
        have hr : s.slot.allocate texts member none =
            ({ s.slot with message := some { member } }, .ok ()) := by
          simp [MessageSlot.allocate, hslot]
        rw [hr]
        refine findsOwn_setPhase (fun j _ => hothers j) _ (.building member [] args) ?_
        rintro _ _ _ ⟨⟩
        rfl
  · exact ⟨h, hone⟩

omit [DecidableEq ι] in
lemma OneBuilds.others (hone : s.OneBuilds) {i : ι} (hi : s.Builds i) : ∀ j ≠ i, ¬ s.Builds j :=
  fun j hne hj => hne (hone j i hj hi)

lemma findsOwn_append (h : s.FindsOwn) (hone : s.OneBuilds) (i : ι) (failure : Option String) :
    (s.step texts (.append i failure)).FindsOwn ∧ (s.step texts (.append i failure)).OneBuilds := by
  simp only [step]
  split
  · rename_i member appended value rest hphase
    have hothers := hone.others ⟨member, appended, value :: rest, hphase⟩
    rcases slot_append_of_own (h i _ _ _ hphase) value failure with ⟨-, hr⟩ | ⟨text, -, hr⟩
    · rw [hr]
      refine findsOwn_setPhase hothers _ _ ?_
      rintro _ _ _ ⟨⟩
      rfl
    · rw [hr]
      exact findsOwn_setPhase hothers _ _ (fun _ _ _ h => by cases h)
  · exact ⟨h, hone⟩

lemma findsOwn_send (h : s.FindsOwn) (hone : s.OneBuilds) (i : ι) (delivered : Bool) :
    (s.step texts (.send i delivered)).FindsOwn ∧ (s.step texts (.send i delivered)).OneBuilds := by
  simp only [step]
  split
  · rename_i member appended hphase
    have hothers := hone.others ⟨member, appended, [], hphase⟩
    rw [slot_send_of_own (h i _ _ _ hphase)]
    exact findsOwn_setPhase hothers _ _ (fun _ _ _ h => by cases h)
  · exact ⟨h, hone⟩

/-- The message of a thread that is building is lost when another one abandons. -/
lemma findsOwn_abandon_iff (h : s.FindsOwn) (i : ι) :
    (s.step texts (.abandon i)).FindsOwn ↔ s.Spares (.abandon i) := by
  simp only [step, Spares]
  split
  · rename_i hphase
    constructor
    · rintro hnext - j ⟨member, appended, rest, hj⟩
      have hne : j ≠ i := by
        rintro rfl
        rw [hphase] at hj
        cases hj
      rw [← phase_setPhase_of_ne hne] at hj
      have hmessage := hnext j member appended rest hj
      have hnone : (s.setPhase i s.slot.abandon .idle).slot.message = none :=
        message_abandon s.slot
      rw [hnone] at hmessage
      cases hmessage
    · intro hnot
      exact (findsOwn_setPhase (fun j _ => hnot hphase j) _ _ (fun _ _ _ h => by cases h)).1
  · rename_i hphase
    exact iff_of_true h fun hfailed => absurd hfailed hphase

lemma oneBuilds_abandon (hone : s.OneBuilds) (i : ι) : (s.step texts (.abandon i)).OneBuilds := by
  simp only [step]
  split
  · intro j k hj hk
    rcases builds_setPhase hj with ⟨-, _, _, _, hidle⟩ | ⟨-, hj⟩
    · cases hidle
    · rcases builds_setPhase hk with ⟨-, _, _, _, hidle⟩ | ⟨-, hk⟩
      · cases hidle
      · exact hone j k hj hk
  · exact hone

/-- Each thread finds its own message after a step exactly when the step spares it. -/
lemma findsOwn_step_iff (hone : s.OneBuilds) (h : s.FindsOwn) (event : SenderEvent ι α) :
    (s.step texts event).FindsOwn ↔ s.Spares event := by
  cases event with
  | starts i member args failure =>
    exact iff_of_true (findsOwn_starts h hone i member args failure).1 trivial
  | append i failure => exact iff_of_true (findsOwn_append h hone i failure).1 trivial
  | send i delivered => exact iff_of_true (findsOwn_send h hone i delivered).1 trivial
  | abandon i => exact findsOwn_abandon_iff h i

lemma oneBuilds_step (hone : s.OneBuilds) (h : s.FindsOwn) (event : SenderEvent ι α) :
    (s.step texts event).OneBuilds := by
  cases event with
  | starts i member args failure => exact (findsOwn_starts h hone i member args failure).2
  | append i failure => exact (findsOwn_append h hone i failure).2
  | send i delivered => exact (findsOwn_send h hone i delivered).2
  | abandon i => exact oneBuilds_abandon hone i

/-- In every interleaving, each thread that is building a message finds its own one, with what it
has appended, exactly when no thread abandons while another one is building. A thread that starts too
early gets no message, but the one that it then abandons is the other one's. -/
theorem findsOwn_run_iff (texts : SlotTexts) (events : List (SenderEvent ι α)) :
    Run.Steps (step texts) (fun s event => (s.step texts event).FindsOwn) {} events ↔
      Run.Steps (step texts) Spares {} events := by
  have hstart : FindsOwn ({} : Senders ι α) := fun _ _ _ _ hphase => by cases hphase
  have hone : OneBuilds ({} : Senders ι α) := by
    rintro i j ⟨_, _, _, hphase⟩
    cases hphase
  exact Run.steps_iff_of_good hone hstart (fun s event hone h _ => oneBuilds_step hone h event)
    (fun s event hone h => findsOwn_step_iff hone h event) events

/-! ### One thread at a time -/

/-- Only one thread uses the place, for the message that it is building. -/
structure Owned (s : Senders ι α) : Prop where
  idle : (∀ i, s.phase i = .idle) → s.slot.message = none
  alone : ∀ i, s.phase i ≠ .idle → ∀ j ≠ i, s.phase j = .idle
  own : ∀ i member appended rest, s.phase i = .building member appended rest →
    s.slot.message = some { member, args := appended }

/-- No thread starts while another one is building or abandoning. -/
def Serial (s : Senders ι α) : SenderEvent ι α → Prop
  | .starts i _ _ _ => s.phase i = .idle → ∀ j, s.phase j = .idle
  | _                   => True

omit [DecidableEq ι] in
lemma owned_start : Owned ({} : Senders ι α) :=
  ⟨fun _ => rfl, fun _ h => absurd rfl h, fun _ _ _ _ h => by cases h⟩

omit [DecidableEq ι] in
lemma Owned.others (h : s.Owned) {i : ι} (hi : s.phase i ≠ .idle) : ∀ j ≠ i, s.phase j = .idle :=
  h.alone i hi

/-- The only thread goes on. -/
lemma owned_setPhase {i : ι} (hothers : ∀ j ≠ i, s.phase j = .idle) (slot : MessageSlot α)
    (phase : SenderPhase α) (hidle : phase = .idle → slot.message = none)
    (hown : ∀ member appended rest, phase = .building member appended rest →
      slot.message = some { member, args := appended }) :
    (s.setPhase i slot phase).Owned := by
  have hi : (s.setPhase i slot phase).phase i = phase := phase_setPhase_self
  have hj : ∀ j ≠ i, (s.setPhase i slot phase).phase j = .idle := fun j hne =>
    (phase_setPhase_of_ne hne).trans (hothers j hne)
  refine ⟨fun hall => ?_, fun j hbusy k hne => ?_, fun j member appended rest hbuild => ?_⟩
  · exact hidle (hi ▸ hall i)
  · have hsame : j = i := by
      by_contra hother
      exact hbusy (hj j hother)
    exact hj k (hsame ▸ hne)
  · have hsame : j = i := by
      by_contra hother
      rw [hj j hother] at hbuild
      cases hbuild
    rw [hsame, hi] at hbuild
    exact hown member appended rest hbuild

/-- A thread that starts alone has the place for itself. -/
lemma owned_starts {i : ι} (hall : ∀ j, s.phase j = .idle) (h : s.Owned) (member : String)
    (args : List α) (failure : Option String) :
    (s.step texts (.starts i member args failure)).Owned := by
  have hnone := h.idle hall
  have hkeeps : ∀ slot phase, (phase = .idle → slot.message = none) →
      (∀ member appended rest, phase = .building member appended rest →
        slot.message = some { member, args := appended }) →
      Owned { s.setPhase i slot phase with begun := s.begun ++ [(member, args)] } := by
    intro slot phase hidle hown
    have hset := owned_setPhase (fun j (_ : j ≠ i) => hall j) slot phase hidle hown
    exact ⟨hset.idle, hset.alone, hset.own⟩
  simp only [step, hall i]
  cases failure with
  | some text =>
    have hr : s.slot.allocate texts member (some text) = (s.slot, .error text) := by
      simp [MessageSlot.allocate, hnone]
    rw [hr]
    exact hkeeps s.slot .failed (fun h => by cases h) (fun _ _ _ h => by cases h)
  | none =>
    have hr : s.slot.allocate texts member none =
        ({ s.slot with message := some { member } }, .ok ()) := by
      simp [MessageSlot.allocate, hnone]
    rw [hr]
    refine hkeeps _ (.building member [] args) (fun h => by cases h) fun _ _ _ h => ?_
    cases h
    rfl

/-- Every other step is one of the thread that is alone. -/
lemma owned_append (h : s.Owned) (i : ι) (failure : Option String) :
    (s.step texts (.append i failure)).Owned := by
  simp only [step]
  split
  · rename_i member appended value rest hphase
    have hothers := h.others (i := i) (by simp [hphase])
    rcases slot_append_of_own (h.own i _ _ _ hphase) value failure with ⟨-, hr⟩ | ⟨text, -, hr⟩
    · rw [hr]
      refine owned_setPhase hothers _ _ (fun h => by cases h) fun _ _ _ h => ?_
      cases h
      rfl
    · rw [hr]
      exact owned_setPhase hothers _ _ (fun h => by cases h) (fun _ _ _ h => by cases h)
  · exact h

lemma owned_send (h : s.Owned) (i : ι) (delivered : Bool) :
    (s.step texts (.send i delivered)).Owned := by
  simp only [step]
  split
  · rename_i member appended hphase
    have hothers := h.others (i := i) (by simp [hphase])
    rw [slot_send_of_own (h.own i _ _ _ hphase)]
    exact owned_setPhase hothers _ _ (fun _ => rfl) (fun _ _ _ h => by cases h)
  · exact h

lemma owned_abandon (h : s.Owned) (i : ι) : (s.step texts (.abandon i)).Owned := by
  simp only [step]
  split
  · rename_i hphase
    have hothers := h.others (i := i) (by simp [hphase])
    exact owned_setPhase hothers _ _ (fun _ => message_abandon s.slot) (fun _ _ _ h => by cases h)
  · exact h

/-- The place is owned after a step exactly when the step does not start a second thread. -/
lemma owned_step_iff (h : s.Owned) (event : SenderEvent ι α) :
    (s.step texts event).Owned ↔ s.Serial event := by
  cases event with
  | append i failure => exact iff_of_true (owned_append h i failure) trivial
  | send i delivered => exact iff_of_true (owned_send h i delivered) trivial
  | abandon i => exact iff_of_true (owned_abandon h i) trivial
  | starts i member args failure =>
    constructor
    · intro hnext hi j
      by_contra hj
      have hne : j ≠ i := by
        rintro rfl
        exact hj hi
      -- the thread has left the idle phase, and the other one is still at work
      have hbusy : (s.step texts (.starts i member args failure)).phase i ≠ .idle := by
        simp only [step, hi, setPhase, Function.update_self]
        cases (s.slot.allocate texts member failure).2 <;> simp [phaseAfter]
      have hsame : (s.step texts (.starts i member args failure)).phase j = s.phase j := by
        simp only [step, hi, setPhase, Function.update_of_ne hne]
      exact hj (hsame ▸ hnext.alone i hbusy j hne)
    · intro hserial
      by_cases hi : s.phase i = .idle
      · exact owned_starts (hserial hi) h member args failure
      · have hsame : s.step texts (.starts i member args failure) = s := by
          cases hphase : s.phase i with
          | idle => exact absurd hphase hi
          | building | failed => simp only [step, hphase]
        rwa [hsame]

/-! ### What is sent -/

/-- What a step of a thread that is alone does: nothing, or the thread starts, goes on, has sent,
or has abandoned. What throws does not succeed. -/
inductive Goes (s : Senders ι α) (succeeds : Prop) : Senders ι α → Prop
  | same : Goes s succeeds s
  | starts (i member args) (hall : ∀ j, s.phase j = .idle) :
      Goes s succeeds { s.setPhase i { s.slot with message := some { member } }
        (.building member [] args) with begun := s.begun ++ [(member, args)] }
  | startFails (i member args) (hall : ∀ j, s.phase j = .idle) (hfails : ¬ succeeds) :
      Goes s succeeds { s.setPhase i s.slot .failed with begun := s.begun ++ [(member, args)] }
  | appends (i member appended value rest message)
      (hphase : s.phase i = .building member appended (value :: rest)) :
      Goes s succeeds (s.setPhase i { s.slot with message }
        (.building member (appended ++ [value]) rest))
  | appendFails (i member appended rest message) (hphase : s.phase i = .building member appended rest)
      (hfails : ¬ succeeds) : Goes s succeeds (s.setPhase i { s.slot with message } .failed)
  | sends (i member appended) (hphase : s.phase i = .building member appended []) :
      Goes s succeeds (s.setPhase i { sent := s.slot.sent ++ [(member, appended)] } .idle)
  | sendFails (i member appended) (hphase : s.phase i = .building member appended [])
      (hfails : ¬ succeeds) : Goes s succeeds (s.setPhase i { sent := s.slot.sent } .idle)
  | abandons (i slot) (hphase : s.phase i = .failed) (hsent : slot.sent = s.slot.sent) :
      Goes s succeeds (s.setPhase i slot .idle)

/-- One case for each function. -/
lemma goes_step (h : s.Owned) {event : SenderEvent ι α} (hserial : s.Serial event) :
    Goes s event.Succeeds (s.step texts event) := by
  cases event with
  | starts i member args failure =>
    simp only [step]
    split
    · rename_i hi
      have hall := hserial hi
      have hnone := h.idle hall
      cases failure with
      | none =>
        have hr : s.slot.allocate texts member none =
            ({ s.slot with message := some { member } }, .ok ()) := by
          simp [MessageSlot.allocate, hnone]
        rw [hr]
        exact Goes.starts i member args hall
      | some text =>
        have hr : s.slot.allocate texts member (some text) = (s.slot, .error text) := by
          simp [MessageSlot.allocate, hnone]
        rw [hr]
        exact Goes.startFails i member args hall (by simp [SenderEvent.Succeeds])
    · exact Goes.same
  | append i failure =>
    simp only [step]
    split
    · rename_i member appended value rest hphase
      rcases slot_append_of_own (h.own i _ _ _ hphase) value failure with ⟨-, hr⟩ | ⟨text, rfl, hr⟩
      · rw [hr]
        exact Goes.appends i member appended value rest _ hphase
      · rw [hr]
        exact Goes.appendFails i member appended _ _ hphase (by simp [SenderEvent.Succeeds])
    · exact Goes.same
  | send i delivered =>
    simp only [step]
    split
    · rename_i member appended hphase
      rw [slot_send_of_own (h.own i _ _ _ hphase)]
      cases delivered with
      | true => exact Goes.sends i member appended hphase
      | false =>
        simp only [Bool.false_eq_true, if_false, List.append_nil]
        exact Goes.sendFails i member appended hphase (by simp [SenderEvent.Succeeds])
    · exact Goes.same
  | abandon i =>
    simp only [step]
    split
    · rename_i hphase
      exact Goes.abandons i _ hphase (sent_abandon s.slot)
    · exact Goes.same

/-- What was sent is related to what was begun, with what is being built as its end. -/
structure Tracks (R : List (String × List α) → List (String × List α) → Prop) (s : Senders ι α) :
    Prop where
  building : ∀ i member appended rest, s.phase i = .building member appended rest →
    R (s.slot.sent ++ [(member, appended ++ rest)]) s.begun
  others : (∀ i member appended rest, s.phase i ≠ .building member appended rest) →
    R s.slot.sent s.begun

variable {R : List (String × List α) → List (String × List α) → Prop}

omit [DecidableEq ι] in
/-- Only the thread that is alone may be building. -/
lemma tracks_of_alone {i : ι} (hothers : ∀ j ≠ i, s.phase j = .idle)
    (hbuilding : ∀ member appended rest, s.phase i = .building member appended rest →
      R (s.slot.sent ++ [(member, appended ++ rest)]) s.begun)
    (hother : (∀ member appended rest, s.phase i ≠ .building member appended rest) →
      R s.slot.sent s.begun) : s.Tracks R := by
  refine ⟨fun j member appended rest hbuild => ?_, fun hnot => hother (hnot i)⟩
  by_cases hsame : j = i
  · rw [hsame] at hbuild
    exact hbuilding member appended rest hbuild
  · rw [hothers j hsame] at hbuild
    cases hbuild

/-- The thread that is alone has nothing to build. -/
lemma tracks_setPhase {i : ι} (hothers : ∀ j ≠ i, s.phase j = .idle) (slot : MessageSlot α)
    {phase : SenderPhase α}
    (hphase : ∀ member appended rest, phase ≠ .building member appended rest)
    (hR : R slot.sent s.begun) : (s.setPhase i slot phase).Tracks R := by
  refine tracks_of_alone (i := i) (fun j hne => ?_) (fun member appended rest hbuild => ?_)
    fun _ => hR
  · rw [phase_setPhase_of_ne hne]
    exact hothers j hne
  · rw [phase_setPhase_self] at hbuild
    exact absurd hbuild (hphase member appended rest)

/-- The thread that is alone builds its message. -/
lemma tracks_setPhase_building {i : ι} (hothers : ∀ j ≠ i, s.phase j = .idle)
    (slot : MessageSlot α) (member : String) (appended rest : List α)
    (hR : R (slot.sent ++ [(member, appended ++ rest)]) s.begun) :
    (s.setPhase i slot (.building member appended rest)).Tracks R := by
  refine tracks_of_alone (i := i) (fun j hne => ?_) (fun member' appended' rest' hbuild => ?_)
    fun hnot => ?_
  · rw [phase_setPhase_of_ne hne]
    exact hothers j hne
  · rw [phase_setPhase_self] at hbuild
    cases hbuild
    exact hR
  · exact absurd phase_setPhase_self (hnot member appended rest)

/-- The relation holds on, where both sides grow at once, and where what fails may be dropped. -/
lemma Tracks.goes {succeeds : Prop} {s' : Senders ι α} (h : s.Tracks R) (hs : s.Owned)
    (hgrow : ∀ l l' x, R l l' → R (l ++ [x]) (l' ++ [x]))
    (hdrop : ¬ succeeds → ∀ l l' x, R (l ++ [x]) l' → R l l')
    (hgoes : Goes s succeeds s') : s'.Tracks R := by
  have hnotBuilding : ∀ i, (∀ j ≠ i, s.phase j = .idle) →
      (∀ member appended rest, s.phase i ≠ .building member appended rest) →
      R s.slot.sent s.begun := by
    intro i hothers hi
    refine h.others fun j member appended rest hbuild => ?_
    by_cases hsame : j = i
    · exact hi member appended rest (hsame ▸ hbuild)
    · rw [hothers j hsame] at hbuild
      cases hbuild
  cases hgoes with
  | same => exact h
  | starts i member args hall =>
    have hsent := hnotBuilding i (fun j _ => hall j) (by simp [hall i])
    exact tracks_setPhase_building (s := { s with begun := s.begun ++ [(member, args)] })
      (fun j _ => hall j) _ member [] args (hgrow _ _ _ hsent)
  | startFails i member args hall hfails =>
    have hsent := hnotBuilding i (fun j _ => hall j) (by simp [hall i])
    exact tracks_setPhase (s := { s with begun := s.begun ++ [(member, args)] })
      (fun j _ => hall j) _ (by simp) (hdrop hfails _ _ _ (hgrow _ _ (member, args) hsent))
  | appends i member appended value rest message hphase =>
    refine tracks_setPhase_building (hs.others (by simp [hphase])) _ _ _ _ ?_
    rw [List.append_assoc]
    exact h.building i member appended (value :: rest) hphase
  | appendFails i member appended rest message hphase hfails =>
    exact tracks_setPhase (hs.others (by simp [hphase])) _ (by simp)
      (hdrop hfails _ _ _ (h.building i member appended rest hphase))
  | sends i member appended hphase =>
    refine tracks_setPhase (hs.others (by simp [hphase])) _ (by simp) ?_
    have hsent := h.building i member appended [] hphase
    rwa [List.append_nil] at hsent
  | sendFails i member appended hphase hfails =>
    exact tracks_setPhase (hs.others (by simp [hphase])) _ (by simp)
      (hdrop hfails _ _ _ (h.building i member appended [] hphase))
  | abandons i slot hphase hsent =>
    have hothers := hs.others (i := i) (by simp [hphase])
    refine tracks_setPhase hothers _ (by simp) ?_
    rw [hsent]
    exact hnotBuilding i hothers (by simp [hphase])

/-- Along a serial run, where all events succeed or what fails may be dropped. -/
lemma tracks_run {events : List (SenderEvent ι α)}
    (h : Run.Steps (step texts) Serial s events) (hs : s.Owned) (hR : s.Tracks R)
    (hgrow : ∀ l l' x, R l l' → R (l ++ [x]) (l' ++ [x]))
    (hdrop : ∀ event ∈ events, ¬ event.Succeeds → ∀ l l' x, R (l ++ [x]) l' → R l l') :
    (Run.run (step texts) s events).Tracks R := by
  induction events generalizing s with
  | nil => exact hR
  | cons event events ih =>
    obtain ⟨hserial, hrest⟩ := h
    refine ih hrest ((owned_step_iff hs event).mpr hserial) ?_ fun event' hevent' =>
      hdrop event' (List.mem_cons_of_mem event hevent')
    exact hR.goes hs hgrow (hdrop event List.mem_cons_self) (goes_step hs hserial)

omit [DecidableEq ι] in
lemma tracks_start (hnil : R [] []) : Tracks R ({} : Senders ι α) :=
  ⟨fun _ _ _ _ hbuild => (nomatch hbuild), fun _ => hnil⟩

/-- When the threads use the place one after the other, what is sent is what they wanted to send, in
that order and with all arguments; messages may be missing, but none when nothing fails. -/
theorem sent_of_serial (texts : SlotTexts) {events : List (SenderEvent ι α)}
    (h : Run.Steps (step texts) Serial {} events) :
    let s := Run.run (step texts) {} events
    s.slot.sent.Sublist s.begun ∧
      ((∀ event ∈ events, event.Succeeds) → (∀ i, s.phase i = .idle) → s.slot.sent = s.begun) := by
  intro s
  constructor
  · have htracks : s.Tracks List.Sublist := tracks_run h owned_start (tracks_start .slnil)
      (fun _ _ x hl => hl.append (List.Sublist.refl [x]))
      (fun _ _ _ _ _ x hl => (List.sublist_append_left _ [x]).trans hl)
    by_cases hbuilds : ∃ i member appended rest, s.phase i = .building member appended rest
    · obtain ⟨i, member, appended, rest, hphase⟩ := hbuilds
      exact (List.sublist_append_left _ _).trans (htracks.building i member appended rest hphase)
    · push Not at hbuilds
      exact htracks.others hbuilds
  · intro hsucceeds hidle
    have htracks : s.Tracks Eq := tracks_run h owned_start (tracks_start rfl)
      (fun _ _ x hl => congrArg (· ++ [x]) hl)
      (fun event hevent hfails => absurd (hsucceeds event hevent) hfails)
    exact htracks.others fun i member appended rest => by simp [hidle i]

/-- The listening thread of a device broadcasts a G-key, and then the main thread a status. -/
theorem sent_of_serial_two :
    let events : List (SenderEvent Bool String) :=
      [.starts true "DeviceGKeyEvent" ["b1d2", "G1"] none, .append true none, .append true none,
        .send true true, .starts false "DevicesStarted" ["b1d2"] none, .append false none,
        .send false true]
    (Run.run (step broadcastSignalTexts) {} events).slot.sent =
      [("DeviceGKeyEvent", ["b1d2", "G1"]), ("DevicesStarted", ["b1d2"])] := by
  intro events
  have hserial : Run.Steps (step broadcastSignalTexts) Serial {} events := by
    refine ⟨fun _ j => rfl, trivial, trivial, trivial, fun _ j => ?_, trivial, trivial, trivial⟩
    cases j <;> rfl
  have hsent := (sent_of_serial broadcastSignalTexts hserial).2 (by simp [events, SenderEvent.Succeeds])
    (fun j => by cases j <;> rfl)
  exact hsent

end Senders

end GLogiK
