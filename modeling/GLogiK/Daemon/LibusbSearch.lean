import GLogiK.Daemon.Libusb

/-!
# Searching the interface

`findUSBDeviceInterface` skips what the device does not expect. When there is nothing else, the
search ends like one that has claimed the interface and found its endpoints.
-/

namespace GLogiK

open Actions

namespace Libusb

/-! ### What is searched -/

/-- What the device expects. -/
def expects (device : LibusbDevice) : UInt8 × UInt8 × UInt8 :=
  (device.bConfigurationValue, device.bInterfaceNumber, device.bAlternateSetting)

/-- Both endpoint addresses are known. -/
def HasEndpoints (device : LibusbDevice) : Prop := device.keysEndpoint ≠ 0 ∧ device.LCDEndpoint ≠ 0

/-- The expected interface was claimed since `s`, nothing was released, and both endpoints of the
device are known. -/
structure Ready (s s' : USBState) : Prop where
  claimed : ∃ calls, s'.calls = s.calls ++ calls ∧
    (.claimInterface (toInt s.device.bInterfaceNumber), 0) ∈ calls ∧
    ∀ numInt ret, (.releaseInterface numInt, ret) ∉ calls
  endpoints : HasEndpoints s'.device

section

variable {c : USBCall} {calls calls' : USBCalls}

end

/-! ### Steps that find nothing -/

/-- The search has gone on with calls of a kind; what the device expects is the same, and its
endpoints are not forgotten. -/
structure Onward (may : USBCall → Bool) (s s' : USBState) : Prop where
  expects : expects s'.device = expects s.device
  endpoints : HasEndpoints s.device → HasEndpoints s'.device
  calls : ∃ calls, s'.calls = s.calls ++ calls ∧ ∀ event ∈ calls, may event.1

section

variable {may may' : USBCall → Bool} {s s' s'' : USBState}

lemma Onward.refl (s : USBState) : Onward may s s :=
  ⟨rfl, id, [], (List.append_nil _).symm, List.forall_mem_nil _⟩

lemma Onward.trans (h : Onward may s s') (h' : Onward may s' s'') : Onward may s s'' := by
  obtain ⟨calls, hcalls, hmay⟩ := h.calls
  obtain ⟨calls', hcalls', hmay'⟩ := h'.calls
  refine ⟨h'.expects.trans h.expects, fun hends => h'.endpoints (h.endpoints hends),
    calls ++ calls', ?_, List.forall_mem_append.mpr ⟨hmay, hmay'⟩⟩
  rw [hcalls', hcalls, List.append_assoc]

lemma Onward.mono (h : Onward may s s') (hmay : ∀ c, may c → may' c) : Onward may' s s' := by
  obtain ⟨calls, hcalls, hall⟩ := h.calls
  exact ⟨h.expects, h.endpoints, calls, hcalls,
    fun event hevent => hmay event.1 (hall event hevent)⟩

/-- The action only goes on with such calls, also when it throws. -/
def Only (may : USBCall → Bool) {α : Type} (x : USBAction α) : Prop :=
  ∀ s, Onward may s (x s).2

variable {α : Type} {x : USBAction α}

lemma Only.keeps (h : Only may x) (s : USBState) : Keeps (Onward may s) x :=
  fun s' hs => hs.trans (h s')

lemma Only.mono (h : Only may x) (hmay : ∀ c, may c → may' c) : Only may' x :=
  fun s => (h s).mono hmay

end

variable (lib : Libusb) {may : USBCall → Bool} {s s' : USBState}

/-- Releases no interface and reads no configuration. -/
def searching : USBCall → Bool
  | .releaseInterface _ | .getConfigDescriptor _ => false
  | _                                            => true

/-- The search has gone on, and has claimed the interface exactly when it has found it. -/
structure Searched (found : Prop) (s s' : USBState) : Prop where
  expects : expects s'.device = expects s.device
  endpoints : HasEndpoints s.device → HasEndpoints s'.device
  calls : ∃ calls, s'.calls = s.calls ++ calls ∧ (∀ event ∈ calls, searching event.1) ∧
    ((.claimInterface (toInt s.device.bInterfaceNumber), 0) ∈ calls ↔ found)

/-- The endpoints of what was found are known. -/
structure Finds (found : Prop) (s s' : USBState) : Prop extends Searched found s s' where
  known : found → HasEndpoints s'.device

section

variable {found found' : Prop} {s'' : USBState} {device device' : LibusbDevice}

lemma bInterfaceNumber_of_expects (h : expects device' = expects device) :
    device'.bInterfaceNumber = device.bInterfaceNumber := congrArg (fun e => e.2.1) h

lemma Searched.trans (h : Searched found s s') (h' : Searched found' s' s'') :
    Searched (found ∨ found') s s'' := by
  obtain ⟨calls, hcalls, hsearching, hclaims⟩ := h.calls
  obtain ⟨calls', hcalls', hsearching', hclaims'⟩ := h'.calls
  rw [bInterfaceNumber_of_expects h.expects] at hclaims'
  refine ⟨h'.expects.trans h.expects, fun hends => h'.endpoints (h.endpoints hends),
    calls ++ calls', ?_, List.forall_mem_append.mpr ⟨hsearching, hsearching'⟩, ?_⟩
  · rw [hcalls', hcalls, List.append_assoc]
  · rw [List.mem_append, hclaims, hclaims']

lemma Finds.trans (h : Finds found s s') (h' : Finds found' s' s'') :
    Finds (found ∨ found') s s'' := by
  refine ⟨h.toSearched.trans h'.toSearched, ?_⟩
  rintro (hfound | hfound)
  · exact h'.endpoints (h.known hfound)
  · exact h'.known hfound

lemma Searched.congr (h : Searched found s s') (hfound : found ↔ found') :
    Searched found' s s' := propext hfound ▸ h

lemma Finds.congr (h : Finds found s s') (hfound : found ↔ found') : Finds found' s s' :=
  propext hfound ▸ h

end

end Libusb

end GLogiK
