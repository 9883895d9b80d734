import ServerLib.ProxyData
import ServerLib.RoundTrip

/-!
# The content managers of the TCP proxy

test/tcpproxy.cpp frames both of its sides with one class: `CServerContentManager` for
the streams of the clients, and `CClientContentManager`, derived from it, for the
streams of the backends.  `Add` is the loop of `CCommonServer::__AddContent` once more,
with the same tests (`pass`), but `HandlePkt` is given the payload without its length.

The two overrides of `HandlePkt` are the two ends of a tunnel.  The server's puts the
key of the client in front of the payload, and the client's takes it out again, finds in
it where the payload goes, and drops what is not longer than a key.

A call of `Add` is not one step of the proxy: `HandlePkt` calls into objects that other
threads call as well.  `add` is the call up to its loop and `addPass` one evaluation of
the loop, with the call of `HandlePkt` in it, if there is one; `adding` says which call
is in its loop.

`Carries` is what the rest of the development says about a manager: the bytes it has of
a stream and the bytes still to come are whole packets of sendable payloads.  On such a
stream `Holds.addPass` says what one evaluation of the loop does.
-/

namespace ServerLib

open Incremental

/-- `CServerContentManager`: `m_userRequests`, and the key of the call of `Add` that is
in its loop. -/
structure ContentManager where
  userRequests : OrderedMap SocketClientData Bytes
  adding : Option SocketClientData

namespace ContentManager

/-- Nothing received yet. -/
def new : ContentManager where
  userRequests := ∅
  adding := none

/-- `m_userRequests[sClient]`. -/
def requestOf (manager : ContentManager) (sClient : SocketClientData) : Bytes :=
  (manager.userRequests.find sClient).getD []

/-- `Add(sClient, pData, nDataLen)`, up to its loop. -/
def add (manager : ContentManager) (sClient : SocketClientData) (pData : Bytes) :
    ContentManager where
  userRequests := manager.userRequests.insert sClient (manager.requestOf sClient ++ pData)
  adding := some sClient

/-- One evaluation of the loop of `Add`, and the arguments of the call of `HandlePkt` in
it.  There is none where no call of `Add` is in its loop, or where `substr` throws. -/
def addPass (manager : ContentManager) :
    Option (ContentManager × Option (SocketClientData × Bytes)) :=
  manager.adding.bind fun sClient =>
    let strData := manager.requestOf sClient
    match pass strData with
    | .done => some ({ manager with adding := none }, none)
    | .abnormal => some (⟨manager.userRequests.insert sClient [], none⟩, none)
    | .incomplete => some ({ manager with adding := none }, none)
    | .handle nDataLen =>
        (substr strData (sizeT nDataLen)).map fun rest =>
          ({ manager with userRequests := manager.userRequests.insert sClient rest },
            some (sClient, (strData.take (sizeT nDataLen)).drop 4))

/-- `Remove(sClient)`. -/
def remove (manager : ContentManager) (sClient : SocketClientData) : ContentManager :=
  { manager with userRequests := manager.userRequests.erase sClient }

/-! ## `HandlePkt` -/

/-- `CServerContentManager::HandlePkt(sClient, pData, nDataLen)`: the data it calls
`g_pTcpProxyClientPool->Send(sClient, …)` with. -/
def serverHandlePkt (sClient : SocketClientData) (pData : Bytes) : Bytes :=
  let nPktLen := Int32.ofNat pData.length + 10
  intBytes nPktLen ++ sClient.bytes ++ pData

/-- `CClientContentManager::HandlePkt(sClient, pData, nDataLen)`: the arguments it calls
`g_pTcpServer->Send` with, if it does. -/
def clientHandlePkt (_sClient : SocketClientData) (pData : Bytes) :
    Option (SocketClientData × Bytes) :=
  if Int32.ofNat pData.length ≤ 10 then
    none
  else
    let nPktLen := Int32.ofNat pData.length - 10
    some (SocketClientData.read pData, intBytes nPktLen ++ pData.drop SocketClientData.size)

end ContentManager

/-- The longest payload the proxy can take: with its length and a key in front of it and
one more chunk behind it, it is below `INT_MAX`. -/
def maxForwarded : ℕ := 2147479537

/-- A payload a client of the proxy may send. -/
def Forwardable (payload : Bytes) : Prop := 1 ≤ payload.length ∧ payload.length ≤ maxForwarded

instance (payload : Bytes) : Decidable (Forwardable payload) :=
  inferInstanceAs (Decidable (_ ∧ _))

/-- The payload of a client as the proxy sends it on. -/
def tagged (item : SocketClientData × Bytes) : Bytes := item.1.bytes ++ item.2

theorem Forwardable.sendable {payload : Bytes} (forwardable : Forwardable payload) :
    Sendable payload := by
  obtain ⟨low, high⟩ := forwardable
  unfold maxForwarded at high
  unfold Sendable maxPayload
  omega

theorem length_tagged (item : SocketClientData × Bytes) :
    (tagged item).length = item.2.length + 10 := by
  rw [tagged, List.length_append, SocketClientData.length_bytes, SocketClientData.size]
  omega

theorem Forwardable.tagged {item : SocketClientData × Bytes} (forwardable : Forwardable item.2) :
    Sendable (tagged item) := by
  obtain ⟨low, high⟩ := forwardable
  unfold maxForwarded at high
  unfold Sendable maxPayload
  rw [length_tagged]
  omega

namespace ContentManager

/-- **The way in**: a packet of the client becomes a packet with the key in it. -/
theorem serverHandlePkt_eq (sClient : SocketClientData) (payload : Bytes) :
    serverHandlePkt sClient payload = encodePkt (tagged (sClient, payload)) := by
  have longer : Int32.ofNat payload.length + 10 =
      Int32.ofNat (tagged (sClient, payload)).length := by
    rw [length_tagged, Int32.ofNat_add]
    rfl
  rw [serverHandlePkt, longer, List.append_assoc]
  rfl

/-- **The way out**: the packet that was sent in, for the client that sent it. -/
theorem clientHandlePkt_tagged {item : SocketClientData × Bytes}
    (forwardable : Forwardable item.2) (sClient : SocketClientData) :
    clientHandlePkt sClient (tagged item) = some (item.1, encodePkt item.2) := by
  obtain ⟨low, high⟩ := forwardable
  unfold maxForwarded at high
  have long : ¬ Int32.ofNat (tagged item).length ≤ 10 := by
    have ten : (10 : Int32).toInt = 10 := rfl
    rw [Int32.le_iff_toInt_le, length_tagged, toInt_ofNat_of_lt (by omega), ten]
    omega
  have shorter : Int32.ofNat (tagged item).length - 10 = Int32.ofNat item.2.length := by
    rw [length_tagged, Int32.ofNat_add]
    exact Int32.add_sub_cancel _ _
  have rest : (tagged item).drop SocketClientData.size = item.2 :=
    List.drop_left' (SocketClientData.length_bytes item.1)
  rw [clientHandlePkt, if_neg long, shorter, rest, tagged, SocketClientData.read_bytes_append]
  rfl

end ContentManager

/-! ## A stream of packets -/

/-- The bytes received of a stream and the bytes still to come are whole packets. -/
def Carries (request future : Bytes) (messages : List Bytes) : Prop :=
  request ++ future = messages.flatMap encodePkt

section Stream

variable {request future : Bytes} {messages : List Bytes}

/-- A packet at the front of a stream has arrived in full, or not. -/
theorem Carries.cases (carries : Carries request future messages)
    (sendable : ∀ message ∈ messages, Sendable message) :
    frameScanner.scan request = none ∧ Regular request ∨
      ∃ message rest request', messages = message :: rest ∧ Sendable message ∧
        request = encodePkt message ++ request' ∧ Carries request' future rest := by
  cases messages with
  | nil =>
      obtain ⟨rfl, -⟩ := List.append_eq_nil_iff.mp carries
      have some : Sendable [0] := by decide
      exact Or.inl <| regular_of_prefix some List.nil_prefix nofun
  | cons message rest =>
      have first := sendable message List.mem_cons_self
      have whole : request ++ future = encodePkt message ++ rest.flatMap encodePkt := carries
      rcases List.append_eq_append_iff.mp whole with ⟨more, same, -⟩ | ⟨request', same, behind⟩
      · by_cases short : request = encodePkt message
        · subst short
          have behind : future = rest.flatMap encodePkt := List.append_cancel_left whole
          exact Or.inr ⟨message, rest, [], rfl, first, (List.append_nil _).symm, behind⟩
        · exact Or.inl <| regular_of_prefix first ⟨more, same.symm⟩ short
      · exact Or.inr ⟨message, rest, request', rfl, first, same, behind.symm⟩

/-- Where no packet is complete, the loop ends and leaves the buffer as it is. -/
theorem pass_of_waits (waits : frameScanner.scan request = none) (regular : Regular request)
    (small : request.length < 2147483648) :
    pass request = .done ∨ pass request = .incomplete := by
  have fits := (regular.headersFit small).start
  have zero : (0 : Int32).toInt = 0 := rfl
  cases taken : pass request with
  | done => exact Or.inl rfl
  | incomplete => exact Or.inr rfl
  | handle nDataLen =>
      exact absurd (fits.pass_eq_handle_iff.mp taken).1 (scan_eq_none_iff.mp waits)
  | abnormal =>
      simp only [pass, gt_iff_lt, Int32.le_iff_toInt_le, zero] at taken
      split at taken
      · next long =>
          have positive := (regular request .start long).1
          split at taken
          · omega
          · split at taken <;> cases taken
      · cases taken

/-- Where a packet is complete, the loop hands it over and goes on behind it. -/
theorem pass_of_encodePkt {message request' : Bytes} (sendable : Sendable message)
    (small : (encodePkt message ++ request').length < 2147483648) :
    ∃ nDataLen, pass (encodePkt message ++ request') = .handle nDataLen ∧
      substr (encodePkt message ++ request') (sizeT nDataLen) = some request' ∧
      ((encodePkt message ++ request').take (sizeT nDataLen)).drop 4 = message := by
  obtain ⟨frame, front, behind⟩ := scan_eq_some_iff.mp (scan_encodePkt sendable request')
  have fits : HeaderFits (encodePkt message ++ request') := by
    intro _ _
    have high := sendable.2
    unfold maxPayload at high
    rw [readInt_encodePkt sendable]
    omega
  refine ⟨_, fits.pass_eq_handle_iff.mpr ⟨frame, rfl⟩, ?_, ?_⟩
  · rw [fits.substr_eq frame, ← behind]
  · rw [(fits.sizeT_eq frame).2, ← front, encodePkt]
    exact List.drop_left' (length_intBytes _)

end Stream

namespace ContentManager

variable {manager : ContentManager} {sClient : SocketClientData} {future : Bytes}
  {messages : List Bytes}

/-- What a manager has of the stream under a key, which carries `messages`: the loop is
behind every packet in it, unless `Add` is in its loop, and the buffer has room for one
more chunk. -/
structure Holds (manager : ContentManager) (sClient : SocketClientData) (future : Bytes)
    (messages : List Bytes) : Prop where
  carries : Carries (manager.requestOf sClient) future messages
  small : (manager.requestOf sClient).length < 2147483648
  behind : manager.adding ≠ some sClient →
    frameScanner.scan (manager.requestOf sClient) = none

/-- A buffer that is the same, and whose loop did not run. -/
theorem Holds.of_same {next : ContentManager} {other : SocketClientData}
    (holds : manager.Holds sClient future messages) (behind : manager.adding ≠ some sClient)
    (same : next.requestOf other = manager.requestOf sClient) :
    next.Holds other future messages :=
  ⟨same ▸ holds.carries, same ▸ holds.small, fun _ => same ▸ holds.behind behind⟩

@[simp] theorem requestOf_new (sClient : SocketClientData) : new.requestOf sClient = [] := by
  rw [requestOf, new, OrderedMap.find_empty]
  rfl

theorem holds_new (sClient : SocketClientData) :
    new.Holds sClient (messages.flatMap encodePkt) messages := by
  constructor
  · rw [requestOf_new]
    rfl
  · rw [requestOf_new]
    decide
  · intro _
    rw [requestOf_new]
    rfl

/-- One buffer was replaced. -/
theorem requestOf_insert (manager : ContentManager) (sClient other : SocketClientData)
    (request : Bytes) (adding : Option SocketClientData) :
    requestOf ⟨manager.userRequests.insert sClient request, adding⟩ other =
      if sClient = other then request else manager.requestOf other := by
  rw [requestOf, OrderedMap.find_insert]
  split <;> rfl

theorem requestOf_add (manager : ContentManager) (sClient other : SocketClientData)
    (pData : Bytes) :
    (manager.add sClient pData).requestOf other =
      if sClient = other then manager.requestOf sClient ++ pData else manager.requestOf other :=
  requestOf_insert ..

theorem requestOf_remove (manager : ContentManager) (sClient other : SocketClientData) :
    (manager.remove sClient).requestOf other =
      if sClient = other then [] else manager.requestOf other := by
  rw [requestOf, remove, OrderedMap.find_erase]
  split <;> rfl

/-- Where the buffer is empty, the loop ends. -/
theorem addPass_of_nil (adding : manager.adding = some sClient)
    (request : manager.requestOf sClient = []) :
    manager.addPass = some ({ manager with adding := none }, none) := by
  unfold ContentManager.addPass
  rw [adding, Option.bind_some, request]
  rfl

/-- Where the buffer starts with a packet, one evaluation of the loop hands its payload
over and goes on behind it. -/
theorem addPass_of_encodePkt {message request' : Bytes} (adding : manager.adding = some sClient)
    (request : manager.requestOf sClient = encodePkt message ++ request')
    (sendable : Sendable message)
    (small : (encodePkt message ++ request').length < 2147483648) :
    manager.addPass = some (⟨manager.userRequests.insert sClient request', some sClient⟩,
      some (sClient, message)) := by
  obtain ⟨nDataLen, passes, cut, payload⟩ := pass_of_encodePkt sendable small
  unfold ContentManager.addPass
  rw [adding, Option.bind_some, request]
  dsimp only
  rw [passes]
  dsimp only
  rw [cut, payload]
  rfl

/-- A chunk arrives: it is in the buffer, and the loop runs. -/
theorem Holds.add {pData : Bytes} (holds : manager.Holds sClient (pData ++ future) messages)
    (sendable : ∀ message ∈ messages, Sendable message) (idle : manager.adding = none)
    (bounded : pData.length ≤ recvSize) :
    (manager.add sClient pData).Holds sClient future messages := by
  have request : (manager.add sClient pData).requestOf sClient =
      manager.requestOf sClient ++ pData := by
    rw [requestOf_add, if_pos rfl]
  have waits := holds.behind (by rw [idle]; exact nofun)
  have short : (manager.requestOf sClient).length < maxPayload + 4 := by
    rcases holds.carries.cases sendable with
      ⟨-, regular⟩ | ⟨message, rest, request', -, sendable', same, -⟩
    · exact regular.length_lt waits
    · rw [same, scan_encodePkt sendable'] at waits
      cases waits
  constructor
  · have carries := holds.carries
    unfold Carries at carries ⊢
    rw [request, List.append_assoc, carries]
  · unfold recvSize at bounded
    unfold maxPayload at short
    rw [request, List.length_append]
    omega
  · exact fun apart => absurd rfl apart

/-- The loop touches the buffer of its own key only. -/
theorem addPass_frame {next : ContentManager} {called : Option (SocketClientData × Bytes)}
    (taken : manager.addPass = some (next, called)) :
    ∃ sClient, manager.adding = some sClient ∧
      ∀ other, other ≠ sClient → next.requestOf other = manager.requestOf other := by
  obtain ⟨sClient, adding, taken⟩ := Option.bind_eq_some_iff.mp taken
  refine ⟨sClient, adding, fun other apart => ?_⟩
  have untouched (value : Bytes) (adding : Option SocketClientData) :
      requestOf ⟨manager.userRequests.insert sClient value, adding⟩ other =
        manager.requestOf other := by
    rw [requestOf_insert, if_neg apart.symm]
  dsimp only at taken
  split at taken
  · obtain ⟨rfl, -⟩ := Prod.mk.inj (Option.some.inj taken)
    rfl
  · obtain ⟨rfl, -⟩ := Prod.mk.inj (Option.some.inj taken)
    exact untouched [] none
  · obtain ⟨rfl, -⟩ := Prod.mk.inj (Option.some.inj taken)
    rfl
  · obtain ⟨rest, -, same⟩ := Option.map_eq_some_iff.mp taken
    obtain ⟨rfl, -⟩ := Prod.mk.inj same
    exact untouched rest manager.adding

/-- **One evaluation of the loop.**  It ends where no packet is complete; otherwise it
hands the payload of the next packet over, and goes on. -/
theorem Holds.addPass (holds : manager.Holds sClient future messages)
    (sendable : ∀ message ∈ messages, Sendable message) (adding : manager.adding = some sClient)
    {next : ContentManager} {called : Option (SocketClientData × Bytes)}
    (taken : manager.addPass = some (next, called)) :
    called = none ∧ next.adding = none ∧ next.Holds sClient future messages ∨
      ∃ message rest, messages = message :: rest ∧ called = some (sClient, message) ∧
        next.adding = some sClient ∧ next.Holds sClient future rest := by
  rcases holds.carries.cases sendable with
    ⟨waits, regular⟩ | ⟨message, rest, request', rfl, sendable', same, carries⟩
  · unfold ContentManager.addPass at taken
    rw [adding, Option.bind_some] at taken
    dsimp only at taken
    have ends : some ({ manager with adding := none }, none) = some (next, called) := by
      rcases pass_of_waits waits regular holds.small with done | incomplete
      · rwa [done] at taken
      · rwa [incomplete] at taken
    obtain ⟨rfl, rfl⟩ := Prod.mk.inj (Option.some.inj ends)
    exact Or.inl ⟨rfl, rfl, holds.carries, holds.small, fun _ => waits⟩
  · have small := holds.small
    rw [same] at small
    rw [addPass_of_encodePkt adding same sendable' small] at taken
    obtain ⟨rfl, rfl⟩ := Prod.mk.inj (Option.some.inj taken)
    have left : requestOf ⟨manager.userRequests.insert sClient request', some sClient⟩ sClient =
        request' := by
      rw [requestOf_insert, if_pos rfl]
    refine Or.inr ⟨message, rest, rfl, rfl, rfl, ?_, ?_, fun apart => absurd rfl apart⟩
    · rwa [left]
    · rw [List.length_append] at small
      rw [left]
      omega

/-- Where the whole stream has arrived and the loop is done, every packet was handed
over. -/
theorem Holds.eq_nil (holds : manager.Holds sClient [] messages)
    (sendable : ∀ message ∈ messages, Sendable message) (idle : manager.adding = none) :
    messages = [] := by
  have waits := holds.behind (by rw [idle]; exact nofun)
  have carries := holds.carries
  rw [Carries, List.append_nil] at carries
  cases messages with
  | nil => rfl
  | cons message rest =>
      rw [carries, List.flatMap_cons, scan_encodePkt (sendable message List.mem_cons_self)] at waits
      cases waits

end ContentManager

end ServerLib
