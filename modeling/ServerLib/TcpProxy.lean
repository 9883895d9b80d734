import ServerLib.Library.FifoPool
import ServerLib.TcpProxyClient

/-!
# The TCP proxy

test/tcpproxy.cpp puts a pool of backends behind one server.  A packet of a client goes
to the backend its descriptor selects, with the client's key in it, and so many clients
share the two streams of one backend.  What comes back is a packet with a key in it,
which says where it goes.

`TcpProxy` is the process with both ends of its connections: the streams of the clients,
of which the server reads chunk by chunk, and the peers of the backends, which echo.
Its threads move one at a time and in any order, the thread of the server (`received`,
`serverPass`) and one for each backend (`client`, `handle`, `clientPass`); each call of
`Send` is one step, so whatever other threads do can come between any two of them.
`passed` is what the proxy is for: the calls of `g_pTcpServer->Send`.

## What the proxy is

Seen from outside the backends are queues of packets, and the proxy distributes the
packets of its clients over them: it is a `Pool` of the library.  `Represents` says of a
proxy and a pool that they are in the same state, and `represents_step` that each step
of the proxy is a push, a pop or nothing.  All the clients of one backend share its
queue, and each client has only one, so `Pool.Held` gives the order of each client's
packets.

`Represents.passedTo_prefix` is what comes of it: what the proxy has passed back to a
client is a front of what the client sent, and `Represents.passedTo_all` says when it is
all of it.
-/

namespace ServerLib

open Transition FifoPool

/-- The proxy, with what its clients have sent and the server has not read, and the
calls of `g_pTcpServer->Send` so far.  `contentManager` belongs to the data handle of the
server, and `proxyClients` is the array of the pool. -/
structure TcpProxy where
  concurrency : Int32
  contentManager : ContentManager
  proxyClients : ℕ → TcpProxyClient
  unread : SocketClientData → Bytes
  passed : List (SocketClientData × Bytes)

namespace TcpProxy

/-- The proxy at its start, and the payloads each client is going to send. -/
def new (concurrency : Int32) (payloads : SocketClientData → List Bytes) : TcpProxy where
  concurrency := concurrency
  contentManager := ContentManager.new
  proxyClients := fun _ => TcpProxyClient.new
  unread := fun sClient => (payloads sClient).flatMap encodePkt
  passed := []

/-! ## The pool -/

/-- `CTcpProxyClientPool::__Hash(sClient)`, with the remainder of C. -/
def hash (concurrency : Int32) (sClient : SocketClientData) : Int32 := sClient.Socket % concurrency

/-- The element of `m_TcpProxyClients` for a key, where there is one. -/
def index (concurrency : Int32) (sClient : SocketClientData) : Option ℕ :=
  if 0 ≤ (hash concurrency sClient).toInt ∧
      (hash concurrency sClient).toInt < concurrency.toInt then
    some (hash concurrency sClient).toInt.toNat
  else
    none

/-- An element of the pool is replaced. -/
def setClient (proxy : TcpProxy) (i : ℕ) (proxyClient : TcpProxyClient) : TcpProxy :=
  { proxy with proxyClients := Function.update proxy.proxyClients i proxyClient }

/-- `g_pTcpProxyClientPool->Send(sClient, pData, nDataLen)`. -/
def poolSend (proxy : TcpProxy) (sClient : SocketClientData) (pData : Bytes) : Option TcpProxy :=
  (index proxy.concurrency sClient).map fun i =>
    proxy.setClient i ((proxy.proxyClients i).send pData)

/-! ## The thread of the server -/

/-- `CTcpServerDataHandle::OnClientDataReceived(sClient, pData, nLen)`, up to the loop of
`Add`: the next bytes of the stream of the client. -/
def received (proxy : TcpProxy) (sClient : SocketClientData) (pData : Bytes) : Option TcpProxy :=
  if proxy.contentManager.adding = none ∧ 1 ≤ pData.length ∧ pData.length ≤ recvSize ∧
      pData <+: proxy.unread sClient then
    some { proxy with
      contentManager := proxy.contentManager.add sClient pData
      unread := Function.update proxy.unread sClient
        ((proxy.unread sClient).drop pData.length) }
  else
    none

/-- `CTcpServerDataHandle::OnClientDisconnected(sClient, nErrorCode)`. -/
def disconnected (proxy : TcpProxy) (sClient : SocketClientData) : Option TcpProxy :=
  if proxy.contentManager.adding = none then
    some { proxy with contentManager := proxy.contentManager.remove sClient }
  else
    none

/-- One evaluation of the loop of `Add`, with the call of `HandlePkt` in it. -/
def serverPass (proxy : TcpProxy) : Option TcpProxy :=
  proxy.contentManager.addPass.bind fun
    | (manager, none) => some { proxy with contentManager := manager }
    | (manager, some (sClient, pData)) =>
        { proxy with contentManager := manager }.poolSend sClient
          (ContentManager.serverHandlePkt sClient pData)

/-! ## The threads of the backends -/

/-- One evaluation of the loop of `Add` in a backend, with the call of
`g_pTcpServer->Send` in it. -/
def clientPass (proxy : TcpProxy) (i : ℕ) : Option TcpProxy :=
  (proxy.proxyClients i).addPass.map fun
    | (proxyClient, none) => proxy.setClient i proxyClient
    | (proxyClient, some call) =>
        { proxy.setClient i proxyClient with passed := proxy.passed ++ [call] }

/-! ## Runs -/

/-- Who moves, and what the environment answers. -/
inductive Label where
  | received (sClient : SocketClientData) (pData : Bytes)
  | disconnected (sClient : SocketClientData) (nErrorCode : Int32)
  | serverPass
  | client (i : ℕ) (label : TcpClient.Label)
  | handle (i : ℕ)
  | clientPass (i : ℕ)
  | echo (i : ℕ) (count : ℕ)
  deriving DecidableEq, Repr

/-- One step. -/
def step (proxy : TcpProxy) : Label → Option TcpProxy
  | .received sClient pData => proxy.received sClient pData
  | .disconnected sClient _ => proxy.disconnected sClient
  | .serverPass => proxy.serverPass
  | .client i label => ((proxy.proxyClients i).clientStep label).map (proxy.setClient i)
  | .handle i => (proxy.proxyClients i).handle.map (proxy.setClient i)
  | .clientPass i => proxy.clientPass i
  | .echo i count => ((proxy.proxyClients i).echo count).map (proxy.setClient i)

/-- The connections stay up: no client goes away, and no backend is stopped or
connects again. -/
def StaysUp (proxy : TcpProxy) : Label → Prop
  | .client i label => (proxy.proxyClients i).tcpClient.Up label
  | .disconnected _ _ => False
  | _ => True

/-- No call of `__Send` in a backend finds the write queue too long. -/
def HasRoom (proxy : TcpProxy) : Label → Prop
  | .client i label => (proxy.proxyClients i).tcpClient.HasRoom label
  | _ => True

instance (proxy : TcpProxy) : (label : Label) → Decidable (proxy.StaysUp label)
  | .client i label => inferInstanceAs (Decidable ((proxy.proxyClients i).tcpClient.Up label))
  | .disconnected _ _ => inferInstanceAs (Decidable False)
  | .received .. | .serverPass | .handle _ | .clientPass _ | .echo .. =>
      inferInstanceAs (Decidable True)

instance (proxy : TcpProxy) : (label : Label) → Decidable (proxy.HasRoom label)
  | .client i label => inferInstanceAs (Decidable ((proxy.proxyClients i).tcpClient.HasRoom label))
  | .received .. | .disconnected .. | .serverPass | .handle _ | .clientPass _ | .echo .. =>
      inferInstanceAs (Decidable True)

/-- The data of the calls of `g_pTcpServer->Send` for one client, in order. -/
def passedTo (proxy : TcpProxy) (sClient : SocketClientData) : List Bytes :=
  (proxy.passed.filter fun call => call.1 = sClient).map Prod.snd

/-- Everything has been processed: the streams of the clients are read, the server is
through with them, and so is every backend with what went into it. -/
structure Processed (proxy : TcpProxy) : Prop where
  read : ∀ sClient, proxy.unread sClient = []
  served : proxy.contentManager.adding = none
  through : ∀ i : ℕ, (i : Int) < proxy.concurrency.toInt → (proxy.proxyClients i).Through

/-! ## The proxy is a pool of queues -/

/-- The packets of one client. -/
abbrev mine (sClient : SocketClientData) (item : SocketClientData × Bytes) : Bool :=
  item.1 = sClient

/-- **The proxy and the pool are in the same state**: what was pushed to a queue went
into the backend, what was popped was passed back, and what is in the queue is still to
come out. -/
structure Represents (payloads : SocketClientData → List Bytes) (proxy : TcpProxy)
    (pool : Pool ℕ (SocketClientData × Bytes)) : Prop where
  /-- What was pushed for a client and what the server still has to hand over are the
  payloads of the client. -/
  server : ∀ sClient, ∃ rest,
    payloads sClient = (ofClass (mine sClient) pool.pushed).map Prod.snd ++ rest ∧
      proxy.contentManager.Holds sClient (proxy.unread sClient) rest
  clients : ∀ i, (proxy.proxyClients i).Relays (itemsAt i pool.pushed) (pool.queue i)
  passed : proxy.passed = pool.popped.map fun entry => (entry.2.1, encodePkt entry.2.2)
  pushed : ∀ entry ∈ pool.pushed,
    index proxy.concurrency entry.2.1 = some entry.1 ∧ Forwardable entry.2.2
  conserved : pool.Conserved
  held : ∀ sClient, pool.Held (mine sClient)

section Keep

variable {payloads : SocketClientData → List Bytes} {proxy next : TcpProxy}
  {pool : Pool ℕ (SocketClientData × Bytes)} {i : ℕ} {proxyClient : TcpProxyClient}

theorem represents_new (concurrency : Int32) :
    (new concurrency payloads).Represents payloads Pool.empty where
  server sClient := ⟨payloads sClient, rfl, ContentManager.holds_new sClient⟩
  clients _ := TcpProxyClient.relays_new
  passed := rfl
  pushed := nofun
  conserved := Pool.conserved_empty
  held _ := ⟨0, fun _ _ => rfl, rfl⟩

/-- A packet in a queue is in the queue of its client. -/
theorem Represents.mem_queue (represents : proxy.Represents payloads pool)
    {item : SocketClientData × Bytes} (member : item ∈ pool.queue i) :
    index proxy.concurrency item.1 = some i ∧ Forwardable item.2 := by
  have inside : item ∈ itemsAt i pool.pushed := by
    rw [← represents.conserved i]
    exact List.mem_append_right _ member
  obtain ⟨⟨j, item'⟩, filtered, rfl⟩ := List.mem_map.mp inside
  obtain ⟨entry, here⟩ := List.mem_filter.mp filtered
  obtain rfl : j = i := of_decide_eq_true here
  exact represents.pushed _ entry

/-- Only a backend changed, and its account did not. -/
theorem Represents.setClient (represents : proxy.Represents payloads pool)
    (relays : proxyClient.Relays (itemsAt i pool.pushed) (pool.queue i)) :
    (proxy.setClient i proxyClient).Represents payloads pool where
  server := represents.server
  clients j := by
    show (Function.update proxy.proxyClients i proxyClient j).Relays _ _
    by_cases here : j = i
    · subst here
      rwa [Function.update_self]
    · rw [Function.update_of_ne here]
      exact represents.clients j
  passed := represents.passed
  pushed := represents.pushed
  conserved := represents.conserved
  held := represents.held

/-- A chunk of a client arrives. -/
theorem Represents.received (represents : proxy.Represents payloads pool)
    (forwardable : ∀ sClient, ∀ payload ∈ payloads sClient, Forwardable payload)
    {sClient : SocketClientData} {pData : Bytes}
    (taken : proxy.received sClient pData = some next) : next.Represents payloads pool := by
  obtain ⟨⟨idle, -, high, more, same⟩, taken⟩ := Option.ite_none_right_eq_some.mp taken
  obtain rfl := Option.some.inj taken
  have behind : (proxy.unread sClient).drop pData.length = more := by
    rw [← same, List.drop_left]
  refine ⟨fun other => ?_, represents.clients, represents.passed, represents.pushed,
    represents.conserved, represents.held⟩
  obtain ⟨rest, split, holds⟩ := represents.server other
  refine ⟨rest, split, ?_⟩
  have sendable : ∀ message ∈ rest, Sendable message := fun message member =>
    (forwardable other message (split ▸ List.mem_append_right _ member)).sendable
  by_cases here : other = sClient
  · subst here
    dsimp only
    rw [Function.update_self, behind]
    rw [← same] at holds
    exact holds.add sendable idle high
  · dsimp only
    rw [Function.update_of_ne here]
    refine holds.of_same (by rw [idle]; exact nofun) ?_
    rw [ContentManager.requestOf_add, if_neg (Ne.symm here)]

/-- **One evaluation of the loop of the server**: it ends, or a packet is pushed to the
queue of its client. -/
theorem Represents.serverPass (represents : proxy.Represents payloads pool)
    (forwardable : ∀ sClient, ∀ payload ∈ payloads sClient, Forwardable payload)
    (taken : proxy.serverPass = some next) : ∃ pool', next.Represents payloads pool' := by
  obtain ⟨⟨manager, called⟩, passes, taken⟩ := Option.bind_eq_some_iff.mp taken
  obtain ⟨sClient, adding, frame⟩ := ContentManager.addPass_frame passes
  have others : ∀ other, other ≠ sClient → ∃ rest,
      payloads other = (ofClass (mine other) pool.pushed).map Prod.snd ++ rest ∧
        manager.Holds other (proxy.unread other) rest := by
    intro other apart
    obtain ⟨rest, split, holds⟩ := represents.server other
    refine ⟨rest, split, holds.of_same ?_ (frame other apart)⟩
    rw [adding]
    exact fun same => apart (Option.some.inj same).symm
  obtain ⟨rest, split, holds⟩ := represents.server sClient
  have all : ∀ payload ∈ rest, Forwardable payload := fun payload member =>
    forwardable sClient payload (split ▸ List.mem_append_right _ member)
  rcases holds.addPass (fun payload member => (all payload member).sendable) adding passes with
    ⟨rfl, -, holds'⟩ | ⟨payload, rest', rfl, rfl, -, holds'⟩
  · obtain rfl := Option.some.inj taken
    refine ⟨pool, fun other => ?_, represents.clients, represents.passed, represents.pushed,
      represents.conserved, represents.held⟩
    by_cases here : other = sClient
    · subst here
      exact ⟨rest, split, holds'⟩
    · exact others other here
  · obtain ⟨i, here, rfl⟩ := Option.map_eq_some_iff.mp taken
    have first := all payload List.mem_cons_self
    have pushed : pool.step (.push i (sClient, payload)) =
        some (pool.pushTo i (sClient, payload)) := rfl
    refine ⟨pool.pushTo i (sClient, payload), fun other => ?_, fun j => ?_, represents.passed,
      fun entry member => ?_, represents.conserved.step pushed,
      fun other => (represents.held other).push ?_⟩
    · rw [Pool.pushed_pushTo, ofClass_concat]
      by_cases same : other = sClient
      · subst same
        refine ⟨rest', ?_, holds'⟩
        rw [if_pos (decide_eq_true rfl), List.map_append, List.append_assoc]
        exact split
      · rw [if_neg (by simpa using Ne.symm same), List.append_nil]
        exact others other same
    · rw [Pool.pushed_pushTo, itemsAt_concat, Pool.queue_pushTo]
      show (Function.update proxy.proxyClients i _ j).Relays _ _
      by_cases same : j = i
      · subst same
        rw [Function.update_self, if_pos rfl, if_pos rfl, ContentManager.serverHandlePkt_eq]
        exact (represents.clients j).send (sClient, payload)
      · rw [Function.update_of_ne same, if_neg (Ne.symm same), if_neg same, List.append_nil]
        exact represents.clients j
    · rcases List.mem_append.mp member with before | last
      · exact represents.pushed entry before
      · obtain rfl := List.mem_singleton.mp last
        exact ⟨here, first⟩
    · -- the other queues hold packets of other clients
      intro own j apart item member
      have away := (represents.mem_queue member).1
      obtain rfl : sClient = other := of_decide_eq_true own
      refine decide_eq_false fun same => apart ?_
      rw [same] at away
      exact Option.some.inj (away.symm.trans here)

/-- **One evaluation of the loop of a backend**: it ends, or a packet is popped from its
queue. -/
theorem Represents.clientPass (represents : proxy.Represents payloads pool)
    (taken : proxy.clientPass i = some next) : ∃ pool', next.Represents payloads pool' := by
  obtain ⟨⟨proxyClient, call⟩, passes, same⟩ := Option.map_eq_some_iff.mp taken
  have forwardable : ∀ item ∈ pool.queue i, Forwardable item.2 :=
    fun item member => (represents.mem_queue member).2
  rcases (represents.clients i).addPass forwardable passes with
    ⟨rfl, relays⟩ | ⟨item, rest, queued, rfl, relays⟩
  · obtain rfl := same
    exact ⟨pool, represents.setClient relays⟩
  · obtain rfl := same
    have popped := Pool.step_pop queued
    refine ⟨pool.popFrom i item rest, represents.server, fun j => ?_, ?_, represents.pushed,
      represents.conserved.step popped, fun other => (represents.held other).pop queued⟩
    · rw [Pool.pushed_popFrom, Pool.queue_popFrom]
      show (Function.update proxy.proxyClients i proxyClient j).Relays _ _
      by_cases here : j = i
      · subst here
        rwa [Function.update_self, if_pos rfl]
      · rw [Function.update_of_ne here, if_neg here]
        exact represents.clients j
    · rw [Pool.popped_popFrom, List.map_append, ← represents.passed]
      rfl

/-- **Every step of the proxy is a push, a pop or nothing**, while the connections stay
up and the write queues have room. -/
theorem represents_step (represents : proxy.Represents payloads pool)
    (forwardable : ∀ sClient, ∀ payload ∈ payloads sClient, Forwardable payload)
    {label : Label} (up : proxy.StaysUp label) (room : proxy.HasRoom label)
    (taken : proxy.step label = some next) : ∃ pool', next.Represents payloads pool' := by
  cases label with
  | received sClient pData => exact ⟨pool, represents.received forwardable taken⟩
  | disconnected => exact up.elim
  | serverPass => exact represents.serverPass forwardable taken
  | client i label =>
      obtain ⟨proxyClient, stepped, rfl⟩ := Option.map_eq_some_iff.mp taken
      exact ⟨pool, represents.setClient ((represents.clients i).clientStep up room stepped)⟩
  | handle i =>
      obtain ⟨proxyClient, handled, rfl⟩ := Option.map_eq_some_iff.mp taken
      exact ⟨pool, represents.setClient ((represents.clients i).handle
        (fun item member => (represents.mem_queue member).2) handled)⟩
  | clientPass i => exact represents.clientPass taken
  | echo i count =>
      obtain ⟨proxyClient, echoed, rfl⟩ := Option.map_eq_some_iff.mp taken
      exact ⟨pool, represents.setClient ((represents.clients i).echo echoed)⟩

/-- What was passed to a client is what was popped for it. -/
theorem Represents.passedTo_eq (represents : proxy.Represents payloads pool)
    (sClient : SocketClientData) :
    proxy.passedTo sClient =
      ((ofClass (mine sClient) pool.popped).map Prod.snd).map encodePkt := by
  rw [passedTo, represents.passed, List.filter_map, ofClass, List.filter_map, List.map_map,
    List.map_map, List.map_map]
  rfl

/-- **A client gets a front of its own packets.** -/
theorem Represents.passedTo_prefix (represents : proxy.Represents payloads pool)
    (sClient : SocketClientData) :
    proxy.passedTo sClient <+: (payloads sClient).map encodePkt := by
  obtain ⟨holder, -, order⟩ := represents.held sClient
  obtain ⟨rest, split, -⟩ := represents.server sClient
  rw [represents.passedTo_eq, split, ← order, List.map_append, List.map_append, List.map_append,
    List.append_assoc]
  exact List.prefix_append _ _

/-- **Where everything was processed, a client has got all its packets.** -/
theorem Represents.passedTo_all (represents : proxy.Represents payloads pool)
    (forwardable : ∀ sClient, ∀ payload ∈ payloads sClient, Forwardable payload)
    (processed : proxy.Processed) (sClient : SocketClientData) :
    proxy.passedTo sClient = (payloads sClient).map encodePkt := by
  obtain ⟨holder, -, order⟩ := represents.held sClient
  obtain ⟨rest, split, holds⟩ := represents.server sClient
  have none : rest = [] := by
    rw [processed.read] at holds
    exact holds.eq_nil (fun payload member => (forwardable sClient payload
      (split ▸ List.mem_append_right _ member)).sendable) processed.served
  have drained : (pool.queue holder).filter (mine sClient) = [] := by
    rw [List.filter_eq_nil_iff]
    intro item member _
    have inside : (holder : Int) < proxy.concurrency.toInt := by
      obtain ⟨bounds, here⟩ :=
        Option.ite_none_right_eq_some.mp (represents.mem_queue member).1
      have := Option.some.inj here
      omega
    have through := (represents.clients holder).eq_nil
      (fun item member => (represents.mem_queue member).2) (processed.through holder inside)
    rw [through] at member
    cases member
  rw [represents.passedTo_eq, split, none, ← order, drained]
  simp

end Keep

end TcpProxy

end ServerLib
