import GLogiK.Daemon.Libusb
import GLogiK.Lib.Owes

/-!
# Giving back the interfaces

Interfaces are claimed, and their kernel drivers detached, in loops that may throw at every call.
What is still to be released or attached is in the two lists of the device all the time, so that
closing the device settles it wherever the exception came from.
-/

namespace GLogiK

open Actions Trace

namespace Libusb

/-! ### What is owed -/

def Claims (event : USBCall × ℤ) (numInt : ℤ) : Prop := event = (.claimInterface numInt, 0)

def Releases (event : USBCall × ℤ) (numInt : ℤ) : Prop := event.1 = .releaseInterface numInt

def Detaches (event : USBCall × ℤ) (numInt : ℤ) : Prop := event = (.detachKernelDriver numInt, 0)

def Attaches (event : USBCall × ℤ) (numInt : ℤ) : Prop := event.1 = .attachKernelDriver numInt

/-- What the calls after `before` have taken is in the lists of the device, or was given back. -/
structure Owing (before : USBCalls) (s : USBState) : Prop where
  status : s.device.USBRequestsStatus = true
  calls : ∃ calls, s.calls = before ++ calls ∧
    Owes Claims Releases s.device.toRelease calls ∧ Owes Detaches Attaches s.device.toAttach calls

/-- The device is closed, and the calls after `before` have given back all that they have taken. -/
structure Closed (before : USBCalls) (s : USBState) : Prop where
  status : s.device.USBRequestsStatus = true
  toRelease : s.device.toRelease = []
  toAttach : s.device.toAttach = []
  handle : s.device.handle = false
  calls : ∃ calls, s.calls = before ++ calls ∧
    GivesBack Claims Releases calls ∧ GivesBack Detaches Attaches calls

variable (lib : Libusb) {before : USBCalls} {s : USBState}

/-! ### Single steps -/

lemma getDevice_eq (s : USBState) : getDevice s = (.ok s.device, s) := rfl

lemma call_eq (c : USBCall) (s : USBState) : lib.call c s =
    (.ok (lib.answer s.calls c), { s with calls := s.calls ++ [(c, lib.answer s.calls c)] }) := rfl

/-- The call takes an interface or its kernel driver when it succeeds. -/
def takes : USBCall → Bool
  | .claimInterface _ | .detachKernelDriver _ => true
  | _                                         => false

/-- The event takes nothing that should be given back. -/
def TakesNothing (event : USBCall × ℤ) : Prop :=
  (∀ n, ¬ Claims event n) ∧ ∀ n, ¬ Detaches event n

lemma takesNothing_of_call {c : USBCall} (hc : takes c = false) (ret : ℤ) :
    TakesNothing (c, ret) := by
  constructor
  · intro n hclaims
    cases hclaims
    cases hc
  · intro n hdetaches
    cases hdetaches
    cases hc

lemma takesNothing_of_failed (c : USBCall) {ret : ℤ} (hret : ret ≠ 0) :
    TakesNothing (c, ret) :=
  ⟨fun _ hclaims => hret (congrArg Prod.snd hclaims),
    fun _ hdetaches => hret (congrArg Prod.snd hdetaches)⟩

lemma Owing.append {events : USBCalls} (h : Owing before s)
    (hevents : ∀ event ∈ events, TakesNothing event) :
    Owing before { s with calls := s.calls ++ events } := by
  obtain ⟨calls, hcalls, hrelease, hattach⟩ := h.calls
  refine ⟨h.status, calls ++ events, ?_,
    hrelease.append_of_not_takes fun event hevent => (hevents event hevent).1,
    hattach.append_of_not_takes fun event hevent => (hevents event hevent).2⟩
  rw [hcalls, List.append_assoc]

lemma Owing.append_call {event : USBCall × ℤ} (h : Owing before s) (hevent : TakesNothing event) :
    Owing before { s with calls := s.calls ++ [event] } :=
  h.append fun _ hmem => List.mem_singleton.mp hmem ▸ hevent

/-- An interface is claimed, and put on the list. -/
lemma Owing.claimed (h : Owing before s) (numInt : ℤ) :
    Owing before { device := { s.device with toRelease := s.device.toRelease ++ [numInt] }
                   calls := s.calls ++ [(.claimInterface numInt, 0)] } := by
  obtain ⟨calls, hcalls, hrelease, hattach⟩ := h.calls
  refine ⟨h.status, calls ++ [(.claimInterface numInt, 0)], ?_, hrelease.append_takes ?_,
    hattach.append_of_not_takes ?_⟩
  · rw [hcalls, List.append_assoc]
  · intro n hclaims
    cases hclaims
    rfl
  · intro event hevent n hdetaches
    rw [List.mem_singleton.mp hevent] at hdetaches
    cases hdetaches

/-- A kernel driver is detached, and its interface put on the list. -/
lemma Owing.detached (h : Owing before s) (numInt : ℤ) :
    Owing before { device := { s.device with toAttach := s.device.toAttach ++ [numInt] }
                   calls := s.calls ++ [(.detachKernelDriver numInt, 0)] } := by
  obtain ⟨calls, hcalls, hrelease, hattach⟩ := h.calls
  refine ⟨h.status, calls ++ [(.detachKernelDriver numInt, 0)], ?_,
    hrelease.append_of_not_takes ?_, hattach.append_takes ?_⟩
  · rw [hcalls, List.append_assoc]
  · intro event hevent n hclaims
    rw [List.mem_singleton.mp hevent] at hclaims
    cases hclaims
  · intro n hdetaches
    cases hdetaches
    rfl

lemma keeps_call {c : USBCall} (hc : takes c = false) : Keeps (Owing before) (lib.call c) :=
  fun _ hs => hs.append_call (takesNothing_of_call hc _)

lemma keeps_callOnly {c : USBCall} (hc : takes c = false) :
    Keeps (Owing before) (lib.callOnly c) :=
  (keeps_call lib hc).bind fun _ => .pure _

lemma keeps_getDevice : Keeps (Owing before) getDevice := fun _ hs => hs

lemma keeps_modifyDevice {f : LibusbDevice → LibusbDevice}
    (hf : ∀ device, (f device).USBRequestsStatus = device.USBRequestsStatus ∧
      (f device).toRelease = device.toRelease ∧ (f device).toAttach = device.toAttach) :
    Keeps (Owing before) (modifyDevice f) := by
  intro s hs
  obtain ⟨hstatus, hrelease, hattach⟩ := hf s.device
  obtain ⟨calls, hcalls, howed, howed'⟩ := hs.calls
  refine ⟨hstatus.trans hs.status, calls, hcalls, ?_, ?_⟩
  · rw [← hrelease] at howed
    exact howed
  · rw [← hattach] at howed'
    exact howed'

lemma keeps_getConfiguration : Keeps (Owing before) lib.getConfiguration :=
  (keeps_call lib rfl).bind fun _ _ hs => hs

lemma keeps_freeAndThrow (index : ℕ) (text : String) :
    Keeps (Owing before) (lib.freeAndThrow index text) :=
  (keeps_callOnly lib rfl).bind fun _ => .throw _

/-! ### Loops over the lists -/

/-- Each interface of the list is handed over, whatever the calls return. -/
lemma forM_callOnly (give : ℤ → USBCall) (ns : List ℤ) (s : USBState) :
    ∃ events : USBCalls, (ns.forM fun n => lib.callOnly (give n)) s =
      (.ok (), { s with calls := s.calls ++ events }) ∧ events.map Prod.fst = ns.map give := by
  induction ns generalizing s with
  | nil =>
    refine ⟨[], ?_, rfl⟩
    rw [List.append_nil]
    rfl
  | cons n ns ih =>
    obtain ⟨events, hloop, hevents⟩ :=
      ih { s with calls := s.calls ++ [(give n, lib.answer s.calls (give n))] }
    have hcall : lib.callOnly (give n) s = (.ok (), { s with
        calls := s.calls ++ [(give n, lib.answer s.calls (give n))] }) := rfl
    refine ⟨(give n, lib.answer s.calls (give n)) :: events, ?_, ?_⟩
    · refine (bind_of_ok hcall).trans (hloop.trans ?_)
      simp only [List.append_assoc, List.singleton_append]
    · rw [List.map_cons, List.map_cons, hevents]

lemma attachUSBDeviceInterfacesToKernelDrivers_eq (s : USBState) :
    ∃ events : USBCalls, lib.attachUSBDeviceInterfacesToKernelDrivers s =
      (.ok (), { device := { s.device with toAttach := [] }, calls := s.calls ++ events }) ∧
      events.map Prod.fst = s.device.toAttach.map .attachKernelDriver := by
  obtain ⟨events, hloop, hevents⟩ := forM_callOnly lib .attachKernelDriver
    s.device.toAttach s
  refine ⟨events, ?_, hevents⟩
  rw [attachUSBDeviceInterfacesToKernelDrivers, bind_of_ok (getDevice_eq s), bind_of_ok hloop]
  rfl

lemma releaseUSBDeviceInterfaces_eq (s : USBState) :
    ∃ events events' : USBCalls, lib.releaseUSBDeviceInterfaces s =
      (.ok (), { device := { s.device with toRelease := [], toAttach := [] }
                 calls := s.calls ++ events ++ events' }) ∧
      events.map Prod.fst = s.device.toRelease.map .releaseInterface ∧
      events'.map Prod.fst = s.device.toAttach.map .attachKernelDriver := by
  obtain ⟨events, hloop, hevents⟩ := forM_callOnly lib .releaseInterface
    s.device.toRelease s
  obtain ⟨events', hattach, hevents'⟩ := attachUSBDeviceInterfacesToKernelDrivers_eq lib
    { device := { s.device with toRelease := [] }, calls := s.calls ++ events }
  refine ⟨events, events', ?_, hevents, hevents'⟩
  rw [releaseUSBDeviceInterfaces, bind_of_ok (getDevice_eq s), bind_of_ok hloop]
  exact hattach

lemma exists_of_map_eq {events : USBCalls} {give : ℤ → USBCall} {ns : List ℤ}
    (h : events.map Prod.fst = ns.map give) :
    (∀ event ∈ events, ∃ n ∈ ns, event.1 = give n) ∧
      ∀ n ∈ ns, ∃ event ∈ events, event.1 = give n := by
  constructor
  · intro event hevent
    have hmem := List.mem_map_of_mem (f := Prod.fst) hevent
    rw [h] at hmem
    obtain ⟨n, hn, heq⟩ := List.mem_map.mp hmem
    exact ⟨n, hn, heq.symm⟩
  · intro n hn
    have hmem := List.mem_map_of_mem (f := give) hn
    rw [← h] at hmem
    obtain ⟨event, hevent, heq⟩ := List.mem_map.mp hmem
    exact ⟨event, hevent, heq⟩

/-- Events that only hand interfaces over. -/
lemma takesNothing_of_map_eq {events : USBCalls} {give : ℤ → USBCall} {ns : List ℤ}
    (h : events.map Prod.fst = ns.map give) (hgive : ∀ n, takes (give n) = false) :
    ∀ event ∈ events, TakesNothing event := by
  rintro ⟨c, ret⟩ hevent
  obtain ⟨n, -, rfl⟩ := (exists_of_map_eq h).1 (c, ret) hevent
  exact takesNothing_of_call (hgive n) ret

/-- What was detached is handed to attach. -/
lemma keeps_attachUSBDeviceInterfacesToKernelDrivers :
    Keeps (Owing before) lib.attachUSBDeviceInterfacesToKernelDrivers := by
  intro s hs
  obtain ⟨events, hattach, hevents⟩ := attachUSBDeviceInterfacesToKernelDrivers_eq lib s
  have hnothing := takesNothing_of_map_eq hevents fun _ => rfl
  obtain ⟨calls, hcalls, hrelease, howed⟩ := hs.calls
  rw [hattach]
  refine ⟨hs.status, calls ++ events, ?_,
    hrelease.append_of_not_takes fun event hevent => (hnothing event hevent).1,
    howed.append_gives (fun event hevent => (hnothing event hevent).2)
      (exists_of_map_eq hevents).2⟩
  rw [hcalls, List.append_assoc]

/-! ### Taking -/

lemma keeps_detachKernelDriverFromUSBDeviceInterface (numInt : ℤ) :
    Keeps (Owing before) (lib.detachKernelDriverFromUSBDeviceInterface numInt) := by
  refine (keeps_call lib rfl).bind fun ret => ?_
  refine Keeps.ite (fun _ => .throw _) fun _ => Keeps.ite (fun _ => ?_) fun _ => .pure _
  intro s hs
  rw [bind_of_ok (call_eq lib (.detachKernelDriver numInt) s)]
  generalize lib.answer s.calls (.detachKernelDriver numInt) = ret'
  by_cases hret : ret' = 0
  · rw [hret, if_neg (not_not_intro rfl)]
    exact hs.detached numInt
  · rw [if_pos hret]
    exact hs.append_call (takesNothing_of_failed _ hret)

lemma keeps_claimInterface (index : ℕ) (numInt : ℤ) :
    Keeps (Owing before) (lib.claimInterface index numInt) := by
  intro s hs
  rw [claimInterface, bind_of_ok (call_eq lib (.claimInterface numInt) s)]
  generalize lib.answer s.calls (.claimInterface numInt) = ret
  by_cases hret : ret = 0
  · rw [hret, if_neg (not_not_intro rfl)]
    exact hs.claimed numInt
  · rw [if_pos hret]
    exact keeps_freeAndThrow lib index _ _ (hs.append_call (takesNothing_of_failed _ hret))

/-! ### The loops over the descriptors -/

lemma keeps_detachOrFree (index : ℕ) (numInt : ℤ) :
    Keeps (Owing before) (lib.detachOrFree index numInt) :=
  (keeps_detachKernelDriverFromUSBDeviceInterface lib numInt).tryCatch
    (keeps_freeAndThrow lib index)

lemma keeps_detachConfiguration (index : ℕ) (configDescriptor : ConfigDescriptor) :
    Keeps (Owing before) (lib.detachConfiguration index configDescriptor) := by
  refine (keeps_call lib rfl).bind fun ret => ?_
  refine Keeps.ite (fun _ => .pure _) fun _ => ?_
  apply Keeps.bind
  · apply Keeps.forM
    intro altsetting _
    apply Keeps.forM
    intro asDescriptor _
    exact keeps_detachOrFree lib index _
  · exact fun _ => keeps_callOnly lib rfl

lemma keeps_setUSBDeviceActiveConfiguration :
    Keeps (Owing before) lib.setUSBDeviceActiveConfiguration := by
  refine keeps_getDevice.bind fun device => ?_
  refine (keeps_getConfiguration lib).bind fun configuration => ?_
  refine Keeps.ite (fun _ => .throw _) fun _ => Keeps.ite (fun _ => .pure _) fun _ => ?_
  refine (keeps_call lib rfl).bind fun ret => ?_
  refine Keeps.ite (fun _ => .throw _) fun _ => ?_
  apply Keeps.bind
  · apply Keeps.forM
    intro config _
    exact keeps_detachConfiguration lib config.2 config.1
  · intro _
    refine (keeps_call lib rfl).bind fun ret => ?_
    exact Keeps.ite (fun _ => .throw _) fun _ => keeps_attachUSBDeviceInterfacesToKernelDrivers lib

lemma keeps_checkActiveConfiguration (index : ℕ) :
    Keeps (Owing before) (lib.checkActiveConfiguration index) := by
  refine (keeps_getConfiguration lib).bind fun configuration => ?_
  refine keeps_getDevice.bind fun device => ?_
  refine Keeps.ite (fun _ => keeps_freeAndThrow lib index _) fun _ => ?_
  exact Keeps.ite (fun _ => keeps_freeAndThrow lib index _) fun _ => .pure _

lemma keeps_checkEndpoints (index : ℕ) : Keeps (Owing before) (lib.checkEndpoints index) := by
  refine keeps_getDevice.bind fun device => ?_
  refine Keeps.ite (fun _ => keeps_freeAndThrow lib index _) fun _ => ?_
  exact Keeps.ite (fun _ => keeps_freeAndThrow lib index _) fun _ => .pure _

/-- The endpoints of a device do not tell what it owes. -/
lemma findEndpoint_eq (device : LibusbDevice) (ep : EndpointDescriptor) :
    (findEndpoint device ep).USBRequestsStatus = device.USBRequestsStatus ∧
      (findEndpoint device ep).toRelease = device.toRelease ∧
      (findEndpoint device ep).toAttach = device.toAttach := by
  simp only [findEndpoint]
  split_ifs <;> exact ⟨rfl, rfl, rfl⟩

lemma foldl_findEndpoint_eq (eps : List EndpointDescriptor) (device : LibusbDevice) :
    (eps.foldl findEndpoint device).USBRequestsStatus = device.USBRequestsStatus ∧
      (eps.foldl findEndpoint device).toRelease = device.toRelease ∧
      (eps.foldl findEndpoint device).toAttach = device.toAttach := by
  induction eps generalizing device with
  | nil => exact ⟨rfl, rfl, rfl⟩
  | cons ep eps ih =>
    obtain ⟨hstatus, hrelease, hattach⟩ := ih (findEndpoint device ep)
    obtain ⟨hstatus', hrelease', hattach'⟩ := findEndpoint_eq device ep
    exact ⟨hstatus.trans hstatus', hrelease.trans hrelease', hattach.trans hattach'⟩

lemma keeps_checkInterface (index : ℕ) (asDescriptor : InterfaceDescriptor) :
    Keeps (Owing before) (lib.checkInterface index asDescriptor) := by
  refine keeps_getDevice.bind fun device => ?_
  refine Keeps.ite (fun _ => .pure _) fun _ => Keeps.ite (fun _ => .pure _) fun _ => ?_
  refine Keeps.ite (fun _ => .pure _) fun _ => ?_
  refine Keeps.ite (fun _ => keeps_freeAndThrow lib index _) fun _ => ?_
  refine (keeps_detachOrFree lib index _).bind fun _ => ?_
  refine (keeps_claimInterface lib index _).bind fun _ => ?_
  refine (keeps_checkActiveConfiguration lib index).bind fun _ => ?_
  refine (keeps_modifyDevice (foldl_findEndpoint_eq asDescriptor.endpoint)).bind fun _ => ?_
  exact keeps_checkEndpoints lib index

lemma keeps_searchConfiguration (index : ℕ) (configDescriptor : ConfigDescriptor) :
    Keeps (Owing before) (lib.searchConfiguration index configDescriptor) := by
  refine (keeps_call lib rfl).bind fun ret => ?_
  refine keeps_getDevice.bind fun device => Keeps.ite (fun _ => .pure _) fun _ => ?_
  refine Keeps.ite (fun _ => keeps_callOnly lib rfl) fun _ => ?_
  apply Keeps.bind
  · apply Keeps.forM
    intro altsetting _
    apply Keeps.forM
    intro asDescriptor _
    exact keeps_checkInterface lib index asDescriptor
  · exact fun _ => keeps_callOnly lib rfl

lemma keeps_findUSBDeviceInterface : Keeps (Owing before) lib.findUSBDeviceInterface := by
  refine (keeps_call lib rfl).bind fun ret => ?_
  refine Keeps.ite (fun _ => .throw _) fun _ => ?_
  apply Keeps.forM
  intro config _
  exact keeps_searchConfiguration lib config.2 config.1

lemma keeps_useUSBDevice : Keeps (Owing before) lib.useUSBDevice :=
  (keeps_setUSBDeviceActiveConfiguration lib).bind fun _ => keeps_findUSBDeviceInterface lib

/-! ### Closing, and opening -/

/-- Closing the device gives back what it owes. -/
lemma closed_closeUSBDevice (h : Owing before s) :
    ∃ s', lib.closeUSBDevice s = (.ok (), s') ∧ Closed before s' := by
  obtain ⟨events, events', hrelease, hevents, hevents'⟩ :=
    releaseUSBDeviceInterfaces_eq lib s
  have hnothing := takesNothing_of_map_eq hevents fun _ => rfl
  have hnothing' := takesNothing_of_map_eq hevents' fun _ => rfl
  obtain ⟨calls, hcalls, howed, howed'⟩ := h.calls
  let ret := lib.answer (s.calls ++ events ++ events') .libusbClose
  let s' : USBState :=
    { device := { s.device with toRelease := [], toAttach := [], handle := false }
      calls := s.calls ++ events ++ events' ++ [(.libusbClose, ret)] }
  have hclose : lib.closeUSBDevice s = (.ok (), s') := by
    rw [closeUSBDevice, bind_of_ok (getDevice_eq s), if_pos h.status, bind_of_ok hrelease]
    rfl
  have hlast : ∀ event ∈ [(USBCall.libusbClose, ret)], TakesNothing event := by
    intro event hevent
    rw [List.mem_singleton.mp hevent]
    exact takesNothing_of_call rfl ret
  refine ⟨s', hclose, h.status, rfl, rfl, rfl,
    calls ++ events ++ events' ++ [(.libusbClose, ret)], ?_, ?_, ?_⟩
  · simp only [s', hcalls, List.append_assoc]
  · have hdone := howed.append_gives (fun event hevent => (hnothing event hevent).1)
      (exists_of_map_eq hevents).2
    have hkept := hdone.append_of_not_takes fun event hevent => (hnothing' event hevent).1
    exact (hkept.append_of_not_takes fun event hevent => (hlast event hevent).1).givesBack
  · have hkept := howed'.append_of_not_takes fun event hevent => (hnothing event hevent).2
    have hdone := hkept.append_gives (fun event hevent => (hnothing' event hevent).2)
      (exists_of_map_eq hevents').2
    exact (hdone.append_of_not_takes fun event hevent => (hlast event hevent).2).givesBack

/-- The calls after `before` did not open the device. -/
def NotOpened (before : USBCalls) (s : USBState) : Prop :=
  ∃ calls, s.calls = before ++ calls ∧ (.libusbOpen, 0) ∉ calls

lemma NotOpened.append {event : USBCall × ℤ} (h : NotOpened before s)
    (hevent : event ≠ (.libusbOpen, 0)) :
    NotOpened before { s with calls := s.calls ++ [event] } := by
  obtain ⟨calls, hcalls, hnot⟩ := h
  refine ⟨calls ++ [event], ?_, ?_⟩
  · rw [hcalls, List.append_assoc]
  · rw [List.mem_append, List.mem_singleton, not_or]
    exact ⟨hnot, hevent.symm⟩

lemma notOpened_call {c : USBCall} (hc : c ≠ .libusbOpen) :
    Keeps (NotOpened before) (lib.call c) :=
  fun _ hs => hs.append fun heq => hc (congrArg Prod.fst heq)

lemma notOpened_seekUSBDevice : Keeps (NotOpened before) lib.seekUSBDevice := by
  refine (notOpened_call lib (by simp)).bind fun numDevices => ?_
  refine Keeps.ite (fun _ => .throw _) fun _ => ?_
  have hplugged : Keeps (NotOpened before)
      ((fun s => (.ok (lib.plugged s.calls), s)) : USBAction Bool) := fun _ hs => hs
  refine hplugged.bind fun plugged => ?_
  refine ((notOpened_call lib (by simp)).bind fun _ => .pure _).bind fun _ => ?_
  refine Keeps.ite (fun _ => .pure _) fun _ => ?_
  exact Keeps.bind (fun _ hs => hs) fun _ => .throw _

lemma keeps_seekUSBDevice : Keeps (Owing before) lib.seekUSBDevice := by
  refine (keeps_call lib rfl).bind fun numDevices => ?_
  refine Keeps.ite (fun _ => .throw _) fun _ => ?_
  have hplugged : Keeps (Owing before)
      ((fun s => (.ok (lib.plugged s.calls), s)) : USBAction Bool) := fun _ hs => hs
  refine hplugged.bind fun plugged => ?_
  refine (keeps_callOnly lib rfl).bind fun _ => ?_
  exact Keeps.ite (fun _ => .pure _) fun _ => keeps_getDevice.bind fun _ => .throw _

lemma useOrClose_cases (h : Owing before s) :
    (∃ e s', lib.useOrClose s = (.error e, s') ∧ Closed before s') ∨
      ∃ s', lib.useOrClose s = (.ok (), s') ∧ Owing before s' := by
  have howing := keeps_useUSBDevice lib s h
  rcases huse : lib.useUSBDevice s with ⟨e | value, s₁⟩
  · rw [huse] at howing
    obtain ⟨s₂, hclose, hclosed⟩ := closed_closeUSBDevice lib howing
    refine Or.inl ⟨e, s₂, ?_, hclosed⟩
    rw [useOrClose, tryCatch_of_error huse, bind_of_ok hclose]
    rfl
  · rw [huse] at howing
    exact Or.inr ⟨s₁, tryCatch_of_ok huse, howing⟩

/-- Opening fails before the device is open, or the device is closed again, or it is open and owes
what it has taken. -/
lemma openUSBDevice_cases (hstatus : s.device.USBRequestsStatus = true) :
    (∃ e s', lib.openUSBDevice s = (.error e, s') ∧ NotOpened s.calls s' ∧
      Owing s.calls s') ∨
      (∃ e s', lib.openUSBDevice s = (.error e, s') ∧ Closed s.calls s') ∨
      ∃ s', lib.openUSBDevice s = (.ok (), s') ∧ Owing s.calls s' := by
  have hstart : Owing s.calls s := ⟨hstatus, [], (List.append_nil _).symm, owes_nil, owes_nil⟩
  have hunopened : NotOpened s.calls s := ⟨[], (List.append_nil _).symm, List.not_mem_nil⟩
  have howing := keeps_seekUSBDevice lib s hstart
  have hnotYet := notOpened_seekUSBDevice lib s hunopened
  rcases hseek : lib.seekUSBDevice s with ⟨e | value, s₁⟩
  · rw [hseek] at howing hnotYet
    exact Or.inl ⟨e, s₁, bind_of_error hseek, hnotYet, howing⟩
  · rw [hseek] at howing hnotYet
    have howing₂ := @keeps_call lib s.calls .libusbOpen rfl s₁ howing
    rw [call_eq] at howing₂
    rw [openUSBDevice, bind_of_ok hseek, bind_of_ok (call_eq lib .libusbOpen s₁)]
    generalize lib.answer s₁.calls .libusbOpen = ret at howing₂
    by_cases hret : ret = 0
    · rw [if_neg (not_not_intro hret)]
      let s₂ : USBState :=
        { device := { s₁.device with handle := true }, calls := s₁.calls ++ [(.libusbOpen, ret)] }
      have hmodify : modifyDevice (fun device => { device with handle := true })
          { s₁ with calls := s₁.calls ++ [(.libusbOpen, ret)] } = (.ok (), s₂) := rfl
      have howing₃ : Owing s.calls s₂ := ⟨howing₂.status, howing₂.calls⟩
      rw [bind_of_ok hmodify]
      exact Or.inr (useOrClose_cases lib howing₃)
    · rw [if_pos hret]
      exact Or.inl ⟨_, _, rfl, hnotYet.append fun heq => hret (congrArg Prod.snd heq), howing₂⟩

/-- When opening throws after the device was opened, the device is closed again, nothing is left in
its lists, every interface that was claimed was handed to `libusb_release_interface` after that, and
every interface whose kernel driver was detached was handed to attach again. The requests of the
device are not skipped, which `requested_run` shows of every device that the driver opens. -/
theorem openUSBDevice_givesBack (lib : Libusb) (s s' : USBState) (e : String)
    (hstatus : s.device.USBRequestsStatus = true)
    (hthrows : lib.openUSBDevice s = (.error e, s'))
    (hopened : ∃ calls, s'.calls = s.calls ++ calls ∧ (.libusbOpen, 0) ∈ calls) :
    Closed s.calls s' := by
  rcases openUSBDevice_cases lib hstatus with
    ⟨e', s₁, hopen, ⟨calls, hcalls, hnot⟩, -⟩ | ⟨e', s₁, hopen, hclosed⟩ | ⟨s₁, hopen, -⟩
  · rw [hopen] at hthrows
    cases hthrows
    obtain ⟨calls', hcalls', hmem⟩ := hopened
    rw [hcalls, List.append_cancel_left_eq] at hcalls'
    rw [hcalls'] at hnot
    exact absurd hmem hnot
  · rw [hopen] at hthrows
    cases hthrows
    exact hclosed
  · rw [hopen] at hthrows
    cases hthrows

/-! ### The driver of the device -/

/-- The USB requests of the device are not skipped. -/
def Requested (s : DriverState) : Prop :=
  ∀ device, s.device = some device → device.USBRequestsStatus = true

lemma requested_closeDevice (s : DriverState) (skipUSBRequests : Bool) :
    Requested (lib.closeDevice s skipUSBRequests) := by
  intro device hdevice
  cases hnone : s.device with
  | none =>
    simp only [closeDevice, hnone] at hdevice
    cases hdevice
  | some device' =>
    simp only [closeDevice, hnone] at hdevice
    cases hdevice

lemma Requested.openDevice {s : DriverState} (h : Requested s) (initFails spawnFails : Bool) :
    Requested (lib.openDevice s initFails spawnFails) := by
  cases hdevice : s.device with
  | none =>
    simp only [Libusb.openDevice, hdevice]
    exact h
  | some device =>
    have hstatus := h device hdevice
    rcases openUSBDevice_cases lib (s := { device, calls := s.calls }) hstatus with
      ⟨e, s', hopen, -, howing⟩ | ⟨e, s', hopen, hclosed⟩ | ⟨s', hopen, howing⟩
    · simp only [Libusb.openDevice, hdevice, hopen]
      intro device' hdevice'
      cases hdevice'
      exact howing.status
    · simp only [Libusb.openDevice, hdevice, hopen]
      intro device' hdevice'
      cases hdevice'
      exact hclosed.status
    · simp only [Libusb.openDevice, hdevice, hopen]
      obtain ⟨s₁, hclose, hclosed⟩ := closed_closeUSBDevice lib howing
      rw [hclose]
      split_ifs
      · intro device' hdevice'
        cases hdevice'
        exact hclosed.status
      · exact requested_closeDevice lib _ false
      · intro device' hdevice'
        cases hdevice'
        exact howing.status

/-- Requests are skipped only while a device is closed, and it is erased then: whatever the driver
has done, a device that it opens does not skip them. -/
theorem requested_run (lib : Libusb) (operations : List DriverOperation) :
    Requested (Run.run lib.operate {} operations) := by
  have hstart : Requested {} := by
    intro device hdevice
    cases hdevice
  refine (Run.steps_true operations).induction hstart fun s operation h _ => ?_
  cases operation with
  | initializeDevice det =>
    rw [operate, initializeDevice]
    split_ifs
    · exact h
    · intro device hdevice
      cases hdevice
      rfl
  | openDevice initFails spawnFails => exact h.openDevice lib initFails spawnFails
  | closeDevice skipUSBRequests => exact requested_closeDevice lib s skipUSBRequests

/-! ### A release that fails -/

/-- One interface without endpoints, which has a kernel driver; its release returns `ret`. -/
def withoutEndpoints (ret : ℤ) : Libusb where
  configurations := [⟨1, [[⟨0, 0, LIBUSB_CLASS_HID, []⟩]]⟩]
  answer := fun _ c =>
    if c = .getDeviceList ∨ c = .kernelDriverActive 0 then 1
    else if c = .releaseInterface 0 then ret
    else 0
  activeConfiguration := fun _ => 1

/-- The device that expects this interface. -/
def expecting : LibusbDevice where
  bus := 1
  num := 3
  bConfigurationValue := 1
  bInterfaceNumber := 0
  bAlternateSetting := 0
  bNumEndpoints := 0

/-- The calls when the release returns `ret`. -/
def callsWithoutEndpoints (ret : ℤ) : USBCalls :=
  [(.getDeviceList, 1), (.freeDeviceList, 0), (.libusbOpen, 0), (.getConfiguration, 0),
    (.getDeviceDescriptor, 0), (.getConfigDescriptor 0, 0), (.kernelDriverActive 0, 1),
    (.detachKernelDriver 0, 0), (.claimInterface 0, 0), (.getConfiguration, 0),
    (.freeConfigDescriptor 0, 0), (.releaseInterface 0, ret), (.attachKernelDriver 0, 0),
    (.libusbClose, 0)]

/-- The missing endpoints are noticed when the interface is claimed. -/
theorem openUSBDevice_givesBack_endpoints :
    Closed [] { device := expecting, calls := callsWithoutEndpoints 0 } := by
  have hthrows : (withoutEndpoints 0).openUSBDevice { device := expecting } =
      (.error "[Keys] endpoint not found",
        { device := expecting, calls := callsWithoutEndpoints 0 }) :=
    Prod.ext (by decide +kernel) (by decide +kernel)
  exact openUSBDevice_givesBack (withoutEndpoints 0) { device := expecting } _ _ rfl hthrows
    ⟨callsWithoutEndpoints 0, rfl, by decide +kernel⟩

/-- A release that fails leaves the interface claimed. -/
theorem not_released_endpoints :
    ¬ ∀ (lib : Libusb) (s s' : USBState) (e : String), s.device.USBRequestsStatus = true →
      lib.openUSBDevice s = (.error e, s') →
      (∃ calls, s'.calls = s.calls ++ calls ∧ (.libusbOpen, 0) ∈ calls) →
      ∃ calls, s'.calls = s.calls ++ calls ∧
        GivesBack Claims (fun event numInt => event = (.releaseInterface numInt, 0)) calls := by
  intro hall
  have hthrows : (withoutEndpoints (-4)).openUSBDevice { device := expecting } =
      (.error "[Keys] endpoint not found",
        { device := expecting, calls := callsWithoutEndpoints (-4) }) :=
    Prod.ext (by decide +kernel) (by decide +kernel)
  obtain ⟨calls, hcalls, hreleased⟩ := hall (withoutEndpoints (-4)) { device := expecting } _ _ rfl
    hthrows ⟨callsWithoutEndpoints (-4), rfl, by decide +kernel⟩
  obtain rfl : callsWithoutEndpoints (-4) = calls := hcalls
  obtain ⟨later, hlater, rfl⟩ := hreleased ((callsWithoutEndpoints (-4)).take 8)
    (.claimInterface 0, 0) ((callsWithoutEndpoints (-4)).drop 9) 0 rfl rfl
  have hnot : (USBCall.releaseInterface 0, (0 : ℤ)) ∉ (callsWithoutEndpoints (-4)).drop 9 := by
    decide +kernel
  exact hnot hlater

end Libusb

end GLogiK
