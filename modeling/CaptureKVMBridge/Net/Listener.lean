import CaptureKVMBridge.Machine.Run
import CaptureKVMBridge.Net.Udp

/-!
# `network_transport.c`: the access point and the listener's task

The start of the transport, and `udp_listener_task` from its socket to the end
of its loop, around the iteration of `Net.Udp`. `udpFrame` is what the listener
takes out of a datagram: a function of the datagram alone, although the buffer
keeps what earlier ones left there. So the run lemma is a plain `filterMap`, and
`udp_delivers` is the round trip of the wire format over UDP: of the encoded
events that arrive, those are delivered that fit the buffer.

`softAp_as_configured` is about the strings in `ap_cfg`: a network name of 32
bytes, which the standard allows, loses its last byte to the zero of the C string,
which `ssid_len` counts; and a password that is set has a length that WPA allows.

Mirroring notes:
- What Wi-Fi and the socket answer is an input of the call.
- A C string is its bytes without the zero, and has none inside.
- `udpTask` is `s_udp_task`, and where the task is; the handle is never cleared.
- `delivered` is bookkeeping. The port number and the log lines are left out.
-/

namespace CaptureKVMBridge.Net

open CaptureKVMBridge.Machine CaptureKVMBridge.Tlv

variable {cfg : Config} {κ : Type}

/-! ## The access point -/

/-- The `CONFIG_APP_WIFI_*` symbols. -/
structure NetworkConfig where
  /-- `CONFIG_APP_WIFI_ENABLE && SOC_WIFI_SUPPORTED` -/
  appWifiEnable : Bool
  /-- `CONFIG_APP_WIFI_AP_SSID` -/
  appWifiApSsid : List UInt8
  /-- `CONFIG_APP_WIFI_AP_PASSWORD` -/
  appWifiApPassword : List UInt8
  /-- `CONFIG_APP_WIFI_AP_CHANNEL` -/
  appWifiApChannel : UInt8
  ssid_noNul : 0 ∉ appWifiApSsid
  password_noNul : 0 ∉ appWifiApPassword

/-- `wifi_auth_mode_t`, the two values in use. -/
inductive WifiAuthMode where
  | open
  | wpaWpa2Psk
  deriving DecidableEq, Repr

/-- The fields of `wifi_ap_config_t` that are set. -/
structure WifiApConfig where
  ssid : Vector UInt8 32
  password : Vector UInt8 64
  ssidLen : UInt8
  channel : UInt8
  authmode : WifiAuthMode
  maxConnection : UInt8
  deriving DecidableEq, Repr

/-- `strlcpy(dst, src, size)`, into a `dst` of zeros. -/
def strlcpy (size : Nat) (src : List UInt8) : Vector UInt8 size :=
  ⟨(src.take (size - 1) ++ List.replicate (size - (src.take (size - 1)).length) 0).toArray, by
    simp only [List.size_toArray, List.length_append, List.length_replicate, List.length_take]
    omega⟩

/-- The `ap_cfg` that `start_wifi_softap` fills in. -/
def apCfg (net : NetworkConfig) : WifiApConfig where
  ssid := strlcpy 32 net.appWifiApSsid
  ssidLen := UInt8.ofNat net.appWifiApSsid.length
  channel := net.appWifiApChannel
  maxConnection := 4
  password :=
    if net.appWifiApPassword.length ≥ 8 then strlcpy 64 net.appWifiApPassword
    else Vector.replicate 64 0
  authmode := if net.appWifiApPassword.length ≥ 8 then .wpaWpa2Psk else .open

/-- What the calls of `start_wifi_softap` answer. -/
structure WifiAnswers where
  netifInit : Int
  eventLoopCreate : Int
  /-- `esp_netif_create_default_wifi_ap` -/
  netif : Bool
  wifiInit : Int
  setMode : Int
  setConfig : Int
  wifiStart : Int

/-- `ESP_ERR_INVALID_STATE` -/
def espErrInvalidState : Int := 0x103

/-- `start_wifi_softap`: `s_wifi_started` as it leaves it, and what it returns. -/
def startWifiSoftap (a : WifiAnswers) (wifiStarted : Bool) : Bool × Int :=
  if wifiStarted then (wifiStarted, 0)
  else if a.netifInit ≠ 0 ∧ a.netifInit ≠ espErrInvalidState then (wifiStarted, a.netifInit)
  else if a.eventLoopCreate ≠ 0 ∧ a.eventLoopCreate ≠ espErrInvalidState then
    (wifiStarted, a.eventLoopCreate)
  -- `ESP_FAIL`
  else if a.netif = false then (wifiStarted, -1)
  else if a.wifiInit ≠ 0 then (wifiStarted, a.wifiInit)
  else if a.setMode ≠ 0 then (wifiStarted, a.setMode)
  else if a.setConfig ≠ 0 then (wifiStarted, a.setConfig)
  else if a.wifiStart ≠ 0 then (wifiStarted, a.wifiStart)
  else (true, 0)

/-- The C string in an array of `char`: its bytes up to the first zero. -/
def cString {size : Nat} (array : Vector UInt8 size) : List UInt8 :=
  array.toList.takeWhile (· ≠ 0)

theorem strlcpy_toList (size : Nat) (src : List UInt8) :
    (strlcpy size src).toList
      = src.take (size - 1) ++ List.replicate (size - (src.take (size - 1)).length) 0 := rfl

/-- **`strlcpy` copies what fits with a zero behind it.** -/
theorem cString_strlcpy (size : Nat) {src : List UInt8} (hsrc : 0 ∉ src) :
    cString (strlcpy size src) = src.take (size - 1) := by
  have hall : ∀ b ∈ src.take (size - 1), decide (b ≠ 0) = true := by
    intro b hb
    exact decide_eq_true fun h => hsrc (h ▸ List.mem_of_mem_take hb)
  have hnone : ∀ n, (List.replicate n (0 : UInt8)).takeWhile (· ≠ 0) = [] := by
    intro n
    cases n <;> rfl
  rw [cString, strlcpy_toList, List.takeWhile_append_of_pos hall, hnone, List.append_nil]

/-- No beginning of the array is a string that does not fit: all of the array would
have to be, and its last byte is the zero. -/
theorem take_strlcpy_ne {size : Nat} (hsize : 0 < size) {src : List UInt8} (hsrc : 0 ∉ src)
    (hlong : size ≤ src.length) (n : Nat) : (strlcpy size src).toList.take n ≠ src := by
  intro h
  have hlen : min n size = src.length := by
    have hlen := congrArg List.length h
    rwa [List.length_take, Vector.length_toList] at hlen
  rw [List.take_of_length_le (by rw [Vector.length_toList]; omega), strlcpy_toList] at h
  refine hsrc (h ▸ List.mem_append_right _ (List.mem_replicate.mpr ⟨?_, rfl⟩))
  rw [List.length_take]
  omega

/-- A string that fits is the beginning of the array that its length says. -/
theorem take_strlcpy {size : Nat} {src : List UInt8} (hshort : src.length < size) :
    (strlcpy size src).toList.take src.length = src := by
  have hall : src.take (size - 1) = src := List.take_of_length_le (by omega)
  rw [strlcpy_toList, hall, List.take_left]

/-- A password is set exactly if the access point is not open. -/
theorem apCfg_password (net : NetworkConfig) :
    cString (apCfg net).password
      = if 8 ≤ net.appWifiApPassword.length then net.appWifiApPassword.take 63 else [] := by
  unfold apCfg
  dsimp only
  split
  · exact cString_strlcpy 64 net.password_noNul
  · rfl

/-- **What is configured and what is in `ap_cfg`.** For every configuration: the name
in `ap_cfg` is the configured one, read as a C string or by `ssid_len`, exactly if
that is shorter than 32 bytes; the password in it is the configured one exactly if
that is empty or has 8 to 63 bytes. The access point asks for a password exactly if
there is one in `ap_cfg`, and then that has 8 to 63 bytes; and with less than 8 bytes
configured it is open, whether a password was set or not. -/
theorem softAp_as_configured (net : NetworkConfig) :
    let ap := apCfg net
    (cString ap.ssid = net.appWifiApSsid ↔ net.appWifiApSsid.length < 32) ∧
    (ap.ssid.toList.take ap.ssidLen.toNat = net.appWifiApSsid ↔ net.appWifiApSsid.length < 32) ∧
    (cString ap.password = net.appWifiApPassword ↔
      net.appWifiApPassword = [] ∨
        8 ≤ net.appWifiApPassword.length ∧ net.appWifiApPassword.length < 64) ∧
    (ap.authmode = .wpaWpa2Psk ↔ cString ap.password ≠ []) ∧
    (ap.authmode = .wpaWpa2Psk →
      8 ≤ (cString ap.password).length ∧ (cString ap.password).length < 64) ∧
    (ap.authmode = .open ↔ net.appWifiApPassword.length < 8) := by
  intro ap
  have hssid : cString ap.ssid = net.appWifiApSsid.take 31 := cString_strlcpy 32 net.ssid_noNul
  have hlen : ap.ssidLen.toNat = net.appWifiApSsid.length % 256 := UInt8.toNat_ofNat'
  have hpassword := apCfg_password net
  have hauth : ap.authmode
      = if net.appWifiApPassword.length ≥ 8 then .wpaWpa2Psk else .open := rfl
  refine ⟨?_, ?_, ?_⟩
  · rw [hssid, List.take_eq_self_iff]
    omega
  · constructor
    · intro h
      by_contra hlong
      exact take_strlcpy_ne (by decide) net.ssid_noNul (Nat.le_of_not_lt hlong) _ h
    · intro hshort
      rw [hlen, Nat.mod_eq_of_lt (by omega)]
      exact take_strlcpy hshort
  · rw [show ap.password = (apCfg net).password from rfl, hpassword, hauth]
    by_cases hset : 8 ≤ net.appWifiApPassword.length
    · have htaken : (net.appWifiApPassword.take 63).length
          = min 63 net.appWifiApPassword.length := List.length_take
      have hne : net.appWifiApPassword.take 63 ≠ [] := by
        intro h
        rw [h, List.length_nil] at htaken
        omega
      have hfits : net.appWifiApPassword.take 63 = net.appWifiApPassword ↔
          net.appWifiApPassword.length < 64 := by
        rw [List.take_eq_self_iff]
        omega
      rw [if_pos hset, if_pos hset]
      refine ⟨?_, iff_of_true rfl hne, fun _ => by omega, iff_of_false (by nofun) (by omega)⟩
      rw [hfits]
      refine ⟨fun h => Or.inr ⟨hset, h⟩, fun h => ?_⟩
      rcases h with h | h
      · rw [h] at hset
        exact absurd hset (by decide)
      · exact h.2
    · rw [if_neg hset, if_neg hset]
      refine ⟨?_, iff_of_false (by nofun) (fun h => h rfl), by nofun, iff_of_true rfl (by omega)⟩
      refine ⟨fun h => Or.inl h.symm, fun h => ?_⟩
      rcases h with h | h
      · exact h.symm
      · exact absurd h.1 hset

/-! ## The task -/

/-- The call that `udp_listener_task` makes next. -/
inductive UdpTask where
  | socket
  | bind
  | recvfrom
  /-- none: the task has deleted itself -/
  | deleted
  deriving DecidableEq, Repr

/-- The statics of `network_transport.c`, and the task. -/
structure NetworkWorld (cfg : Config) (κ : Type) where
  callback : Option κ
  wifiStarted : Bool
  udpTask : Option UdpTask
  buffer : UdpBuffer cfg
  /-- what the callback was given, oldest first -/
  delivered : List (CallbackCall κ)

/-- At start-up; the buffer is on the stack of a task to come. -/
def networkBoot (buffer : UdpBuffer cfg) : NetworkWorld cfg κ where
  callback := none
  wifiStarted := false
  udpTask := none
  buffer := buffer
  delivered := []

/-- `network_transport_start`: the state it leaves, and what it returns. -/
def networkTransportStart (net : NetworkConfig) (cb : Option κ) (a : WifiAnswers)
    (taskCreated : Bool) (w : NetworkWorld cfg κ) : NetworkWorld cfg κ × Int :=
  let w := { w with callback := cb }
  if net.appWifiEnable = false then (w, 0)
  else
    let r := startWifiSoftap a w.wifiStarted
    let w := { w with wifiStarted := r.1 }
    if r.2 ≠ 0 then (w, r.2)
    else if w.udpTask.isSome then (w, 0)
    -- `ESP_FAIL`
    else if taskCreated = false then (w, -1)
    else ({ w with udpTask := some .socket }, 0)

/-- What a call of the task is answered: `socket` and `bind` whether they work,
`recvfrom` what there is. -/
structure UdpAnswer where
  ok : Bool
  received : UdpReceive

/-- The next call of `udp_listener_task`. -/
def udpListenerTask (w : NetworkWorld cfg κ) (a : UdpAnswer) : NetworkWorld cfg κ :=
  match w.udpTask with
  | none | some .deleted => w
  | some .socket => { w with udpTask := some (if a.ok then .bind else .deleted) }
  | some .bind => { w with udpTask := some (if a.ok then .recvfrom else .deleted) }
  | some .recvfrom =>
    let r := udpListenerIteration w.callback w.buffer a.received
    { w with buffer := r.1, delivered := w.delivered ++ r.2.toList }

/-! ## What a datagram comes to -/

/-- The frame that the listener takes out of a datagram. -/
def udpFrame (cfg : Config) (d : List UInt8) : Option (List UInt8) :=
  match d.take (cfg.appTlvMaxPayload + 3) with
  | s0 :: s1 :: t :: m :: l :: pl =>
    if (s0 = protocolTlvSync0 ∧ s1 = protocolTlvSync1) ∧ protocolTlvTypeIsValid t = true ∧
        (be16 m l).toNat ≤ cfg.appTlvMaxPayload ∧ pl.length = (be16 m l).toNat then
      some (t :: m :: l :: pl)
    else none
  | _ => none

/-- The callback call that a frame over UDP leads to. -/
def udpCall (cb : κ) (f : List UInt8) : CallbackCall κ :=
  { callback := cb, source := .network, frame := f }

/-- What is asked of the bytes that fit the buffer. -/
theorem udpFrame_taken {d : List UInt8} {s0 s1 t m l : UInt8} {pl : List UInt8}
    (hd : d.take (cfg.appTlvMaxPayload + 3) = s0 :: s1 :: t :: m :: l :: pl) :
    udpFrame cfg d
      = if (s0 = protocolTlvSync0 ∧ s1 = protocolTlvSync1) ∧ protocolTlvTypeIsValid t = true ∧
          (be16 m l).toNat ≤ cfg.appTlvMaxPayload ∧ pl.length = (be16 m l).toNat then
          some (t :: m :: l :: pl)
        else none := by
  unfold udpFrame
  rw [hd]

/-- The datagram of an answer. -/
def UdpReceive.toList : UdpReceive → List (List UInt8)
  | .error => []
  | .datagram d => [d]

/-- **An iteration depends on the datagram alone**: the buffer may hold anything. -/
theorem udpListenerIteration_frame (cb : κ) (buffer : UdpBuffer cfg) (r : UdpReceive) :
    (udpListenerIteration (some cb) buffer r).2.toList
      = (r.toList.filterMap (udpFrame cfg)).map (udpCall cb) := by
  cases r with
  | error => rfl
  | datagram d =>
    have hmin := cfg.maxPayload_ge
    have hone : [d].filterMap (udpFrame cfg) = (udpFrame cfg d).toList := by
      rw [List.filterMap_cons, List.filterMap_nil]
      cases udpFrame cfg d <;> rfl
    show _ = ([d].filterMap (udpFrame cfg)).map (udpCall cb)
    rw [hone]
    by_cases hshort : d.length < 5
    · have hnone : udpFrame cfg d = none := by
        have htake : d.take (cfg.appTlvMaxPayload + 3) = d := List.take_of_length_le (by omega)
        unfold udpFrame
        rw [htake]
        match d, hshort with
        | [], _ | [_], _ | [_, _], _ | [_, _, _], _ | [_, _, _, _], _ => rfl
      rw [udpListenerIteration_short cb buffer hshort, hnone]
      rfl
    · have hlen : 5 ≤ (d.take (cfg.appTlvMaxPayload + 3)).length := by
        rw [List.length_take]
        omega
      match htake : d.take (cfg.appTlvMaxPayload + 3), hlen with
      | s0 :: s1 :: t :: m :: l :: pl, _ =>
        rw [udpListenerIteration_call cb buffer htake, udpFrame_taken htake]
        split
        · rfl
        · rfl

/-- An encoded event that fits the buffer is one frame; a longer one is cut, and
then shorter than its header says. -/
theorem udpFrame_encode (haudio : cfg.appEnableUsbAudio = true) {e : ProtocolPayload}
    (he : Sendable cfg e) :
    udpFrame cfg (encode e)
      = if (encode e).length ≤ cfg.appTlvMaxPayload + 3 then some (encodeFrame e) else none := by
  have hwf := encodeFrame_wellFormed haudio he
  obtain ⟨t, m, l, pl, hf⟩ := hwf.split
  have hencode : encode e = wire (t :: m :: l :: pl) := by rw [encode, hf]
  rw [hf] at hwf ⊢
  rw [hencode]
  obtain ⟨htype, hsane, hlen⟩ := hwf
  obtain ⟨hmax, hdec, -⟩ := lengthSane_iff_decodesLength.mp hsane
  have hmin := cfg.maxPayload_ge
  have hwire : (wire (t :: m :: l :: pl)).length = pl.length + 5 := rfl
  rw [udpFrame_taken (take_wire (by omega) t m l pl)]
  by_cases hfits : (wire (t :: m :: l :: pl)).length ≤ cfg.appTlvMaxPayload + 3
  · rw [if_pos hfits, List.take_of_length_le (by omega),
      if_pos ⟨⟨rfl, rfl⟩, hdec.valid, hmax, hlen⟩]
  · have hcut : ¬(pl.take (cfg.appTlvMaxPayload - 2)).length = (be16 m l).toNat := by
      rw [List.length_take]
      omega
    rw [if_neg hfits, if_neg fun h => hcut h.2.2.2]

/-! ## Runs -/

/-- The datagrams that a task at this point takes from its socket. -/
def heard : Option UdpTask → List UdpAnswer → List (List UInt8)
  | _, [] => []
  | none, _ :: _ => []
  | some .deleted, _ :: _ => []
  | some .socket, a :: as => if a.ok then heard (some .bind) as else []
  | some .bind, a :: as => if a.ok then heard (some .recvfrom) as else []
  | some .recvfrom, a :: as => a.received.toList ++ heard (some .recvfrom) as

theorem heard_none (as : List UdpAnswer) : heard none as = [] := by
  cases as <;> rfl

theorem heard_deleted (as : List UdpAnswer) : heard (some .deleted) as = [] := by
  cases as <;> rfl

/-- **What a run of the task delivers.** By induction on the answers. -/
theorem udpListenerTask_run {w : NetworkWorld cfg κ} {cb : κ} (hcb : w.callback = some cb)
    (as : List UdpAnswer) :
    (runSteps udpListenerTask w as).delivered
      = w.delivered ++ ((heard w.udpTask as).filterMap (udpFrame cfg)).map (udpCall cb) := by
  induction as generalizing w with
  | nil =>
    cases w.udpTask <;> exact (List.append_nil _).symm
  | cons a as ih =>
    have hstep : (udpListenerTask w a).callback = some cb := by
      unfold udpListenerTask
      split <;> exact hcb
    rw [runSteps_cons, ih hstep]
    unfold udpListenerTask
    cases htask : w.udpTask with
    | none =>
      dsimp only
      rw [htask, heard_none]
      rfl
    | some task =>
      cases task with
      | socket =>
        dsimp only [heard]
        split
        · rfl
        · rw [heard_deleted]
      | bind =>
        dsimp only [heard]
        split
        · rfl
        · rw [heard_deleted]
      | recvfrom =>
        dsimp only [heard]
        rw [hcb, udpListenerIteration_frame, List.filterMap_append, List.map_append,
          List.append_assoc]
      | deleted =>
        dsimp only
        rw [htask, heard_deleted]
        rfl

/-- A start that succeeds installs the callback, and has delivered nothing. -/
theorem networkTransportStart_ok {net : NetworkConfig} {cb : Option κ} {a : WifiAnswers}
    {taskCreated : Bool} {buffer : UdpBuffer cfg} {w : NetworkWorld cfg κ}
    (h : networkTransportStart net cb a taskCreated (networkBoot buffer) = (w, 0)) :
    w.callback = cb ∧ w.delivered = [] ∧
      w.udpTask = if net.appWifiEnable then some .socket else none := by
  unfold networkTransportStart at h
  dsimp only at h
  cases henable : net.appWifiEnable with
  | false =>
    rw [henable, if_pos rfl] at h
    cases h
    exact ⟨rfl, rfl, rfl⟩
  | true =>
    rw [henable, if_neg (by nofun)] at h
    split at h
    next herr => exact absurd (Prod.mk.inj h).2 herr
    next =>
      split at h
      next hsome => cases hsome
      next =>
        split at h
        · cases h
        · cases h
          exact ⟨rfl, rfl, rfl⟩

/-- **Over UDP what fits is delivered.** For any start that succeeds and any
answers of the socket: the callback was given the frames of the datagrams that
were taken from it, in order, each judged by itself, whatever was left in the
buffer and however many calls failed in between. In a build with audio, if these
are encoded events, those are delivered that are not longer than the buffer. -/
theorem udp_delivers (cfg : Config) (net : NetworkConfig) (cb : κ) (a : WifiAnswers)
    (taskCreated : Bool) (buffer : UdpBuffer cfg) (w₀ : NetworkWorld cfg κ)
    (hstart : networkTransportStart net (some cb) a taskCreated (networkBoot buffer) = (w₀, 0))
    (answers : List UdpAnswer) :
    let taken := if net.appWifiEnable then heard (some .socket) answers else []
    let w := runSteps udpListenerTask w₀ answers
    w.delivered = (taken.filterMap (udpFrame cfg)).map (udpCall cb) ∧
    ∀ events : List ProtocolPayload, cfg.appEnableUsbAudio = true →
      (∀ e ∈ events, Sendable cfg e) → taken = events.map encode →
        w.delivered
          = (events.filter fun e => (encode e).length ≤ cfg.appTlvMaxPayload + 3).map
              fun e => udpCall cb (encodeFrame e) := by
  intro taken w
  obtain ⟨hcb, hdelivered, htask⟩ := networkTransportStart_ok hstart
  have hheard : heard w₀.udpTask answers = taken := by
    rw [htask]
    show _ = if net.appWifiEnable then heard (some .socket) answers else []
    split
    · rfl
    · exact heard_none answers
  have hrun : w.delivered = (taken.filterMap (udpFrame cfg)).map (udpCall cb) := by
    show (runSteps udpListenerTask w₀ answers).delivered = _
    rw [udpListenerTask_run hcb, hdelivered, hheard, List.nil_append]
  refine ⟨hrun, fun events haudio hevents htaken => ?_⟩
  rw [hrun, htaken, List.filterMap_map]
  clear hrun htaken
  induction events with
  | nil => rfl
  | cons e events ih =>
    obtain ⟨he, hrest⟩ := List.forall_mem_cons.mp hevents
    rw [List.filterMap_cons, List.filter_cons]
    dsimp only [Function.comp_apply]
    rw [udpFrame_encode haudio he]
    by_cases hfits : (encode e).length ≤ cfg.appTlvMaxPayload + 3
    · rw [if_pos hfits, if_pos (decide_eq_true hfits), List.map_cons, List.map_cons, ih hrest]
    · rw [if_neg hfits, if_neg (by rw [decide_eq_false hfits]; exact Bool.false_ne_true), ih hrest]

/-- A key press, after a `recvfrom` that was interrupted. -/
theorem udp_delivers_press :
    let net : NetworkConfig := ⟨true, [72], [], 6, by decide, by decide⟩
    let w₀ : NetworkWorld smallAudio Unit :=
      { networkBoot (Vector.replicate _ 0) with
        callback := some (), wifiStarted := true, udpTask := some .socket }
    networkTransportStart net (some ()) ⟨0, espErrInvalidState, true, 0, 0, 0, 0⟩ true
        (networkBoot (Vector.replicate _ 0)) = (w₀, 0) ∧
    (runSteps udpListenerTask w₀ [⟨true, .error⟩, ⟨true, .error⟩, ⟨true, .error⟩,
        ⟨true, .datagram (encode pressEvent)⟩]).delivered
      = [udpCall () (encodeFrame pressEvent)] := by
  intro net w₀
  refine ⟨rfl, ?_⟩
  obtain ⟨-, hevents⟩ := udp_delivers smallAudio net () ⟨0, espErrInvalidState, true, 0, 0, 0, 0⟩
    true (Vector.replicate _ 0) w₀ rfl [⟨true, .error⟩, ⟨true, .error⟩, ⟨true, .error⟩,
      ⟨true, .datagram (encode pressEvent)⟩]
  exact hevents [pressEvent] rfl (List.forall_mem_singleton.mpr trivial) rfl

end CaptureKVMBridge.Net
