import CaptureKVMBridge.Firmware.Bridge
import CaptureKVMBridge.Machine.Fair

/-!
# What arrives is handled

`frames_relayed` says what is handled at any time; here it is said when all of it
is. Once `app_main` has returned and no more bytes arrive on the serial port, its
task and the callback that the task runs only have to be scheduled often enough,
among whatever else goes on (`serial_handled`). How often, `serialWork` says: it
counts the calls that are left, if every byte that is not fed ends a frame.

Either the task is in its callback, and then that goes on, or the task does: one of
the two can always help, and no other step concerns them (`firmwareExec_port`).
-/

namespace CaptureKVMBridge.Firmware

open CaptureKVMBridge.Machine CaptureKVMBridge.Tlv CaptureKVMBridge.Usb
open Net (NetworkConfig UdpBuffer smallAudio)

variable {cfg : Config} {net : NetworkConfig} {w : World cfg}

/-! ## The calls that are left -/

/-- The calls that a task has to make before it goes on. -/
def Courier.work (c : Courier) : Nat :=
  4 * c.calls.length + match c.handler with
    | some (.dispatchEvent _) => 3
    | some (.usbHsHandle _) => 2
    | some (.markFeatureUsage _) => 1
    | none => 0

/-- The bytes that the task of the serial port will feed. -/
def awaited (s : Serial.SerialWorld cfg FrameCallback) : Nat :=
  match s.task with
  | .deleted => 0
  | .malloc | .read | .feed _ | .drain => s.inHand.length + s.buffered.length

/-- The calls that the task of the serial port and its callback have to make. -/
def serialWork (w : World cfg) : Nat :=
  match w.serial with
  | none => 0
  | some s => s.work + 4 * awaited s + (w.courier .serial).work

/-- A call of the task delivers at most a frame for each byte that it feeds. -/
theorem called_awaited {s s' : Serial.SerialWorld cfg FrameCallback} (h : Serial.Called s s') :
    awaited s' + (newCalls s.delivered s'.delivered).length ≤ awaited s := by
  unfold awaited Serial.SerialWorld.inHand
  cases h with
  | stays h =>
    rw [newCalls_self]
    exact Nat.le_refl _
  | allocates h next hnext =>
    dsimp only
    rw [newCalls_self, h]
    rcases hnext with rfl | rfl
    · exact Nat.le_refl _
    · exact Nat.zero_le _
  | reads h chunk rest hne hsplit =>
    have hlen : s.buffered.length = chunk.length + rest.length := by
      rw [hsplit, List.length_append]
    dsimp only
    rw [newCalls_self]
    rcases h with h | h
    · rw [h]
      simp [hlen]
    · rw [h]
      simp [hlen]
  | empties h hempty =>
    dsimp only
    rw [newCalls_self, h]
    exact Nat.le_refl _
  | feeds chunk h =>
    have hframes : (tlvStreamFeed s.stream chunk).2.length ≤ chunk.length := by
      rw [tlvStreamFeed_eq]
      exact outputs_length_le tlvStreamFeedByte s.stream chunk
    have hnew : newCalls s.delivered (s.delivered ++ (tlvStreamFeed s.stream chunk).2)
        = (tlvStreamFeed s.stream chunk).2 := List.drop_left
    dsimp only
    rw [hnew, h]
    dsimp only [List.length_nil]
    omega

/-- There is nothing to feed when there is nothing to do. -/
theorem awaited_of_work {s : Serial.SerialWorld cfg FrameCallback} (h : s.work = 0) :
    awaited s = 0 := by
  unfold awaited
  by_cases hdeleted : s.task = .deleted
  · rw [hdeleted]
  · obtain ⟨hread, hempty⟩ := Serial.idle_of_work h hdeleted
    unfold Serial.SerialWorld.inHand
    rw [hread, hempty]
    rfl

theorem Courier.work_idle : Courier.idle.work = 0 := rfl

/-- A task that has no call left is not in its callback. -/
theorem Courier.idle_of_work {c : Courier} (h : c.work = 0) : c = .idle := by
  obtain ⟨calls, handler⟩ := c
  unfold Courier.work at h
  cases calls with
  | cons c calls =>
    rw [List.length_cons] at h
    omega
  | nil =>
    cases handler with
    | none => rfl
    | some pc =>
      cases pc with
      | dispatchEvent event => exact absurd h (by simp)
      | usbHsHandle event => exact absurd h (by simp)
      | markFeatureUsage event => exact absurd h (by simp)

theorem Courier.work_le (c : Courier) : c.work ≤ 4 * c.calls.length + 3 := by
  obtain ⟨calls, handler⟩ := c
  unfold Courier.work
  cases handler with
  | none => exact Nat.le_add_right _ _
  | some pc =>
    cases pc with
    | dispatchEvent event => exact Nat.le_refl _
    | usbHsHandle event => exact Nat.le_succ _
    | markFeatureUsage event => exact Nat.add_le_add_left (show 1 ≤ 3 by decide) _

/-- A call in a callback is one less to make. -/
theorem callback_work (pol : GrantPolicy UInt8) {t : Transport} (h : w.courier t ≠ .idle) :
    ((callback pol t w).courier t).work < (w.courier t).work := by
  have hset : ∀ {w' : World cfg} {c : Courier}, w'.courier = (w.setCourier t c).courier →
      c.work < (w.courier t).work → (w'.courier t).work < (w.courier t).work := by
    intro w' c hw' hlt
    rw [hw', setCourier_self]
    exact hlt
  unfold callback
  split
  next event hpc =>
    refine hset rfl ?_
    unfold Courier.work
    rw [hpc]
    dsimp only
    refine Nat.add_lt_add_left ?_ _
    -- the handler that there is, or none
    cases dispatchEvent w.protocol event with
    | none => exact Nat.zero_lt_succ _
    | some d => exact Nat.lt_succ_self _
  next event hpc =>
    refine hset rfl ?_
    unfold Courier.work
    rw [hpc]
    exact Nat.lt_succ_self _
  next event hpc =>
    refine hset rfl ?_
    unfold Courier.work
    rw [hpc]
    exact Nat.lt_succ_self _
  next hpc =>
    split
    next hcalls => exact absurd (Courier.idle_of_work (by rw [Courier.work, hcalls, hpc]; rfl)) h
    next c calls hcalls =>
      have hwork : (w.courier t).work = 4 * (calls.length + 1) := by
        rw [Courier.work, hcalls, hpc]
        rfl
      cases c.callback with
      | protocolTlvReceiveFrame =>
        refine hset rfl (Nat.lt_of_le_of_lt (Courier.work_le _) ?_)
        dsimp only
        omega

/-! ## Who can help -/

/-- The two that see to the bytes of the serial port. -/
inductive SerialParty where
  | task
  | callback
  deriving DecidableEq, Repr

/-- Which of them a step is of. -/
def serialParty : FirmwareOp → Option SerialParty
  | .serial (.task _) => some .task
  | .callback .serial => some .callback
  | _ => none

/-- The one that can help. -/
def helpfulParty (w : World cfg) : SerialParty :=
  if w.courier .serial = .idle then .task else .callback

/-- No bytes arrive on the serial port. -/
def Undisturbed (op : FirmwareOp) : Prop := ∀ bs, op ≠ .serial (.receive bs)

/-- The serial port and its callback are as they were. -/
structure SamePort (w w' : World cfg) : Prop where
  serial : w'.serial = w.serial
  courier : w'.courier .serial = w.courier .serial

theorem SamePort.work {w' : World cfg} (h : SamePort w w') : serialWork w' = serialWork w := by
  unfold serialWork
  rw [h.serial, h.courier]

theorem callback_other (pol : GrantPolicy UInt8) (w : World cfg) {t : Transport}
    (h : t ≠ .serial) : SamePort w (callback pol t w) :=
  ⟨(callback_transports pol t w).2.1, callback_courier pol w fun heq => h heq.symm⟩

theorem networkStep_port (a : Net.UdpAnswer) (w : World cfg) : SamePort w (networkStep a w) := by
  have hother : Transport.serial ≠ .network := by nofun
  unfold networkStep
  split
  · refine ⟨rfl, ?_⟩
    dsimp only [World.setCourier]
    rw [Function.update_of_ne hother]
  · exact ⟨rfl, rfl⟩

theorem uartStep_port (op : Uart.UartOp) (w : World cfg) : SamePort w (uartStep op w) := by
  have hother : Transport.serial ≠ .uart := by nofun
  unfold uartStep
  split
  · exact ⟨rfl, rfl⟩
  · split
    · refine ⟨rfl, ?_⟩
      dsimp only [World.setCourier]
      rw [Function.update_of_ne hother]
    · exact ⟨rfl, rfl⟩
  · exact ⟨rfl, rfl⟩

/-- A call of the task when it can help. -/
theorem serialTask_helps (answer : Nat) (hidle : w.courier .serial = .idle) :
    serialWork (serialStep (.task answer) w) ≤ serialWork w - 1 := by
  unfold serialStep
  cases hs : w.serial with
  | none =>
    unfold serialWork
    dsimp only
    rw [hs]
    exact Nat.zero_le _
  | some s =>
    dsimp only
    rw [if_pos hidle]
    have hcalled := Serial.serialRxTask_called answer s
    have hwork := hcalled.work
    have hawaited := called_awaited hcalled
    have hnothing : s.work = 0 → awaited s = 0 := awaited_of_work
    unfold serialWork
    dsimp only [Serial.serialExec]
    rw [setCourier_self, hs, hidle, Courier.work_idle]
    dsimp only [Courier.work]
    omega

/-- A call of the task while its callback is under way is none. -/
theorem serialTask_waits (answer : Nat) (hbusy : w.courier .serial ≠ .idle) :
    serialStep (.task answer) w = w := by
  unfold serialStep
  cases hs : w.serial with
  | none => rfl
  | some s =>
    dsimp only
    rw [if_neg hbusy]

/-- A call in the callback of the port's task. -/
theorem callback_helps (pol : GrantPolicy UInt8) (hbusy : w.courier .serial ≠ .idle) :
    serialWork (callback pol .serial w) ≤ serialWork w - 1 := by
  have hlt := callback_work pol hbusy
  unfold serialWork
  rw [(callback_transports pol .serial w).2.1]
  cases w.serial with
  | none => exact Nat.zero_le _
  | some s =>
    dsimp only
    omega

/-- What a step does to the port: nothing, or it is of the one that can help. -/
inductive PortStep (w w' : World cfg) (party : Option SerialParty) : Prop
  | helps (hparty : party = some (helpfulParty w)) (hwork : serialWork w' ≤ serialWork w - 1)
  | other (hparty : party ≠ some (helpfulParty w)) (hsame : SamePort w w')

theorem helpfulParty_task : helpfulParty w = .task ↔ w.courier .serial = .idle := by
  unfold helpfulParty
  split
  next h => exact iff_of_true rfl h
  next h => exact iff_of_false (by nofun) h

/-- **Only the one that can help concerns the port**, and it helps. -/
theorem firmwareExec_port (net : NetworkConfig) (pol : GrantPolicy UInt8)
    (hmain : w.main = .returned) {op : FirmwareOp} (hop : Undisturbed op) :
    PortStep w (firmwareExec net pol w op) (serialParty op) := by
  have hother : ∀ {w' : World cfg}, SamePort w w' → PortStep w w' none :=
    fun hsame => .other (by nofun) hsame
  have hsame : SamePort w w := ⟨rfl, rfl⟩
  cases op with
  | main a =>
    refine hother ?_
    unfold firmwareExec appMain
    rw [hmain]
    exact hsame
  | bus e => exact hother ⟨rfl, rfl⟩
  | request len buf => exact hother ⟨rfl, rfl⟩
  | poll =>
    refine hother ?_
    unfold firmwareExec
    dsimp only
    split
    · exact ⟨rfl, rfl⟩
    · exact hsame
  | display touch lock =>
    refine hother ?_
    unfold firmwareExec
    dsimp only
    split
    · exact ⟨rfl, rfl⟩
    · exact hsame
  | network a => exact hother (networkStep_port a w)
  | uart op => exact hother (uartStep_port op w)
  | serial op =>
    cases op with
    | receive bs => exact absurd rfl (hop bs)
    | task answer =>
      show PortStep w (serialStep (.task answer) w) (some .task)
      by_cases hidle : w.courier .serial = .idle
      · exact .helps (congrArg some (helpfulParty_task.mpr hidle).symm)
          (serialTask_helps answer hidle)
      · rw [serialTask_waits answer hidle]
        exact .other (fun h => hidle (helpfulParty_task.mp (Option.some.inj h).symm)) hsame
  | callback t =>
    show PortStep w (callback pol t w) (serialParty (.callback t))
    cases t with
    | network => exact hother (callback_other pol w (by nofun))
    | uart => exact hother (callback_other pol w (by nofun))
    | serial =>
      by_cases hidle : w.courier .serial = .idle
      · rw [callback_idle pol hidle]
        refine .other (fun h => ?_) hsame
        rw [helpfulParty_task.mpr hidle] at h
        cases h
      · refine .helps ?_ (callback_helps pol hidle)
        rw [helpfulParty, if_neg hidle]
        rfl

/-- `app_main` does not come back. -/
theorem returned_stays (net : NetworkConfig) (pol : GrantPolicy UInt8)
    (hmain : w.main = .returned) (op : FirmwareOp) :
    (firmwareStep net pol w op).main = .returned := by
  by_cases hop : ∃ a, op = .main a
  · obtain ⟨a, rfl⟩ := hop
    unfold firmwareStep firmwareExec appMain
    rw [hmain]
    split
    · exact hmain
    · exact hmain
  · unfold firmwareStep
    split
    · exact hmain
    · have hparts : (firmwareExec net pol w op).parts = w.parts :=
        firmwareExec_parts pol w fun a ha => hop ⟨a, ha⟩
      rw [← hmain]
      exact congrArg Parts.main hparts

theorem firmwareStep_returned (net : NetworkConfig) (pol : GrantPolicy UInt8)
    (hmain : w.main = .returned) (op : FirmwareOp) :
    firmwareStep net pol w op = firmwareExec net pol w op := by
  unfold firmwareStep
  exact if_neg (by rw [hmain]; nofun)

theorem firmwareStep_port (net : NetworkConfig) (pol : GrantPolicy UInt8)
    (hmain : w.main = .returned) {op : FirmwareOp} (hop : Undisturbed op) :
    PortStep w (firmwareStep net pol w op) (serialParty op) := by
  rw [firmwareStep_returned net pol hmain]
  exact firmwareExec_port net pol hmain hop

/-- One of the two can always help. -/
theorem serial_helpful (cfg : Config) (net : NetworkConfig) (pol : GrantPolicy UInt8) :
    Helpful (firmwareStep net pol) (fun w : World cfg => w.main = .returned) Undisturbed
      serialParty helpfulParty serialWork where
  inv w op hmain _ := returned_stays net pol hmain op
  le w op hmain hop := by
    cases firmwareStep_port net pol hmain hop with
    | helps hparty hwork => omega
    | other hparty hsame => exact Nat.le_of_eq hsame.work
  helps w op hmain hop hrank hhelps := by
    cases firmwareStep_port net pol hmain hop with
    | helps hparty hwork => omega
    | other hparty hsame => exact absurd hhelps hparty
  keeps w op hmain hop hrank heq := by
    cases firmwareStep_port net pol hmain hop with
    | helps hparty hwork => omega
    | other hparty hsame =>
      unfold helpfulParty
      rw [hsame.courier]

/-! ## Runs -/

/-- The bytes that have arrived on the serial port. -/
def portTaken (w : World cfg) : Option (List UInt8) := w.serial.map Serial.SerialWorld.taken

/-- Without arrivals they stay the same. -/
theorem portTaken_step (net : NetworkConfig) (pol : GrantPolicy UInt8)
    (hmain : w.main = .returned) {op : FirmwareOp} (hop : Undisturbed op) :
    portTaken (firmwareStep net pol w op) = portTaken w := by
  cases firmwareStep_port net pol hmain hop with
  | other hparty hsame => rw [portTaken, hsame.serial, portTaken]
  | helps hparty hwork =>
    rw [firmwareStep_returned net pol hmain]
    unfold serialParty at hparty
    split at hparty
    next answer =>
      show portTaken (serialStep (.task answer) w) = portTaken w
      unfold serialStep
      cases hs : w.serial with
      | none => rfl
      | some s =>
        dsimp only
        split
        · rw [portTaken, portTaken, hs]
          exact congrArg some (Serial.serialRxTask_called answer s).taken
        · rfl
    next => exact congrArg (Option.map _) (callback_transports pol .serial w).2.1
    next => cases hparty

/-- **What arrives on the serial port is handled.** In every run of the firmware in
which `app_main` has returned, from every state of it: if no more bytes arrive, and
in each of enough rounds the port's task and its callback are scheduled, with any
other steps between, then one of two things. The task got no buffer, has deleted
itself, and no event of the port was or will be handled. Or all bytes that have
arrived are fed, and the events handled from the port are the frames that the parser
finds in them; if they are encoded events in a build with audio, those are handled. -/
theorem serial_handled (cfg : Config) (net : NetworkConfig) (pol : GrantPolicy UInt8)
    (env : Answers) (backlight : Stream' Int) (buffer : UdpBuffer cfg) (before : List FirmwareOp)
    (rounds : List (List FirmwareOp)) (s : Serial.SerialWorld cfg FrameCallback)
    (hmain : (runSteps (firmwareStep net pol) (boot cfg env backlight buffer) before).main
      = .returned)
    (hs : (runSteps (firmwareStep net pol) (boot cfg env backlight buffer) before).serial = some s)
    (hquiet : ∀ round ∈ rounds, ∀ op ∈ round, Undisturbed op)
    (hfair : ∀ round ∈ rounds, Round serialParty round)
    (hlen : serialWork (runSteps (firmwareStep net pol) (boot cfg env backlight buffer) before)
      ≤ rounds.length) :
    let w := runSteps (firmwareStep net pol) (boot cfg env backlight buffer)
      (before ++ rounds.flatten)
    ∃ s', w.serial = some s' ∧
      ((s'.task = .deleted ∧ s'.fed = [] ∧ w.handledFrom .serial = []) ∨
      s'.fed = s.taken ∧
      w.handledFrom .serial = (outputs (framerStep cfg) [] s.taken).map (frameOf .serial) ∧
      ∀ events : List ProtocolPayload, cfg.appEnableUsbAudio = true →
        (∀ e ∈ events, Sendable cfg e) → s.taken = (events.map encode).flatten →
          w.handledFrom .serial = events.map fun e => { source := .usbJtag, payload := e }) := by
  intro w
  set v := runSteps (firmwareStep net pol) (boot cfg env backlight buffer) before with hv
  have hw : w = runSteps (firmwareStep net pol) v rounds.flatten := List.foldl_append ..
  have hallowed : ∀ op ∈ rounds.flatten, Undisturbed op := by
    intro op hop
    obtain ⟨round, hround, hmem⟩ := List.mem_flatten.mp hop
    exact hquiet round hround op hmem
  have hdone : serialWork w = 0 := by
    rw [hw]
    exact (serial_helpful cfg net pol).done hquiet hfair hmain hlen
  -- no byte arrives in the rounds, so what has arrived is what had
  have htaken : portTaken w = some s.taken := by
    have hstep : ∀ (u : World cfg) (op : FirmwareOp),
        u.main = .returned ∧ portTaken u = some s.taken → Undisturbed op →
          (firmwareStep net pol u op).main = .returned ∧
            portTaken (firmwareStep net pol u op) = some s.taken :=
      fun u op hu hop => ⟨returned_stays net pol hu.1 op,
        (portTaken_step net pol hu.1 hop).trans hu.2⟩
    have hstart : portTaken v = some s.taken := by
      rw [portTaken, hs]
      rfl
    rw [hw]
    exact (AllSteps.inv hstep ⟨hmain, hstart⟩ (allSteps_of_mem hallowed v)).2
  obtain ⟨-, -, htagged, hrelays⟩ :=
    relays_run cfg net pol env backlight buffer (before ++ rounds.flatten)
  change Tagged w at htagged
  change Relays w at hrelays
  unfold portTaken at htaken
  obtain ⟨s', hs', htaken'⟩ := Option.map_eq_some_iff.mp htaken
  refine ⟨s', hs', ?_⟩
  unfold serialWork at hdone
  rw [hs'] at hdone
  dsimp only at hdone
  by_cases hdeleted : s'.task = .deleted
  -- a task that has deleted itself never fed anything
  · have hunfed : s'.fed = [] := (htagged.serial s' hs').unfed (Or.inr hdeleted)
    have hsplit := hrelays.split .serial
    rw [htagged.eventsOf_serial hs', hunfed, List.append_assoc] at hsplit
    exact Or.inl ⟨hdeleted, hunfed, (List.append_eq_nil_iff.mp hsplit).1⟩
  · obtain ⟨hread, hempty⟩ := Serial.idle_of_work (by omega) hdeleted
    have hidle : w.courier .serial = .idle := Courier.idle_of_work (by omega)
    have hfed : s'.fed = s.taken := by
      rw [← htaken', Serial.SerialWorld.taken, Serial.SerialWorld.inHand, hread, hempty,
        List.append_nil, List.append_nil]
    have hhandled : w.handledFrom .serial
        = (outputs (framerStep cfg) [] s.taken).map (frameOf .serial) := by
      have hsplit := hrelays.split .serial
      rw [World.unhandled, World.undispatched, hidle, htagged.eventsOf_serial hs', hfed] at hsplit
      rw [← hsplit]
      exact ((List.append_nil _).trans (List.append_nil _)).symm
    refine Or.inr ⟨hfed, hhandled, fun events haudio hevents hencoded => ?_⟩
    rw [hhandled, hencoded, framer_encode haudio hevents, List.map_map]
    refine List.map_congr_left fun e _ => ?_
    show frameOf .serial (encodeFrame e) = _
    rw [frameOf, decodeFrame_encodeFrame]
    rfl

/-- A key press that has been read is handled in four rounds, with a poll in each. -/
theorem serial_handled_press :
    (runSteps (firmwareStep offline .full)
      (boot smallAudio accepting (Stream'.const 0) (Vector.replicate _ 0))
      (pressRun ++ (List.replicate 4 [.callback .serial, .poll, .serial (.task 0)]).flatten)).handledFrom
        .serial = [{ source := .usbJtag, payload := pressEvent }] := by
  have hsome : ((runSteps (firmwareStep offline .full)
      (boot smallAudio accepting (Stream'.const 0) (Vector.replicate _ 0)) pressRun).serial).isSome
        = true := by decide +kernel
  have htaken : portTaken (runSteps (firmwareStep offline .full)
      (boot smallAudio accepting (Stream'.const 0) (Vector.replicate _ 0)) pressRun)
        = some ([pressEvent].map encode).flatten := by decide +kernel
  have hround : ∀ round ∈ List.replicate 4 [FirmwareOp.callback .serial, .poll, .serial (.task 0)],
      (∀ op ∈ round, Undisturbed op) ∧ Round serialParty round := by
    intro round hmem
    rw [List.eq_of_mem_replicate hmem]
    refine ⟨by simp [Undisturbed], fun p => ?_⟩
    cases p with
    | task => exact ⟨.serial (.task 0), by simp, rfl⟩
    | callback => exact ⟨.callback .serial, by simp, rfl⟩
  obtain ⟨s', hs', hdone⟩ := serial_handled smallAudio offline .full accepting (Stream'.const 0)
    (Vector.replicate _ 0) pressRun _ _ (by decide +kernel) (Option.some_get hsome).symm
    (fun round hmem => (hround round hmem).1) (fun round hmem => (hround round hmem).2)
    (by decide +kernel)
  rcases hdone with ⟨hdeleted, -, -⟩ | ⟨-, -, hevents⟩
  · have hdrained : (runSteps (firmwareStep offline .full)
        (boot smallAudio accepting (Stream'.const 0) (Vector.replicate _ 0))
        (pressRun ++ (List.replicate 4
          [.callback .serial, .poll, .serial (.task 0)]).flatten)).serial.map
          Serial.SerialWorld.task = some .read := by decide +kernel
    rw [hs', Option.map_some, hdeleted] at hdrained
    cases hdrained
  · exact hevents [pressEvent] rfl (List.forall_mem_singleton.mpr trivial)
      (Option.some.inj ((congrArg (Option.map _) (Option.some_get hsome)).trans htaken))

end CaptureKVMBridge.Firmware
