import Mathlib.Logic.Function.Basic
import ServerLib.Socket

/-!
# The registry of connections: `CSocketInfoManager`

The connections of a server are registered under their `SocketClientData` in 256
channels, each a map with a lock of its own (tcpserver.h).  The channel of a key
is `sClient.Socket % SOCKET_CHANNEL_NUM`, computed with the C remainder, so a
negative `Socket` can give a negative index.  An array has no element there:
`channelIndex` is `none`, and so is the result of every operation on such a key.

`lookup` reads the 256 channels as one map.  `lookup_add` and `lookup_remove` are
its equations, so the sharding is invisible to everything that uses the registry.
-/

namespace ServerLib

/-- `SOCKET_CHANNEL_NUM`. -/
def socketChannelNum : Int32 := 256

/-- `CSocketInfoChannel`: one map, every operation one critical section. -/
structure SocketInfoChannel (α : Type) where
  connections : OrderedMap SocketClientData α

namespace SocketInfoChannel

variable {α : Type}

/-- `Add(sClient, pConn)`. -/
def add (channel : SocketInfoChannel α) (sClient : SocketClientData) (pConn : α) :
    SocketInfoChannel α :=
  ⟨channel.connections.insert sClient pConn⟩

/-- `Get(sClient)`; `none` is the null pointer. -/
def get (channel : SocketInfoChannel α) (sClient : SocketClientData) : Option α :=
  channel.connections.find sClient

/-- `Remove(sClient)`. -/
def remove (channel : SocketInfoChannel α) (sClient : SocketClientData) :
    SocketInfoChannel α :=
  ⟨channel.connections.erase sClient⟩

end SocketInfoChannel

/-- `CSocketInfoManager`: the array of channels. -/
structure SocketInfoManager (α : Type) where
  channels : Fin 256 → SocketInfoChannel α

namespace SocketInfoManager

variable {α : Type}

/-- Nothing registered yet. -/
def new : SocketInfoManager α where
  channels := fun _ => ⟨∅⟩

/-- `__Hash(sClient)`, with the remainder of C. -/
def hash (sClient : SocketClientData) : Int32 := sClient.Socket % socketChannelNum

/-- The channel of a key, where there is one. -/
def channelIndex (sClient : SocketClientData) : Option (Fin 256) :=
  if bound : 0 ≤ (hash sClient).toInt ∧ (hash sClient).toInt < 256 then
    some ⟨(hash sClient).toInt.toNat, by omega⟩
  else
    none

/-- `Add(sClient, pConn)`. -/
def add (manager : SocketInfoManager α) (sClient : SocketClientData) (pConn : α) :
    Option (SocketInfoManager α) :=
  (channelIndex sClient).map fun i =>
    ⟨Function.update manager.channels i ((manager.channels i).add sClient pConn)⟩

/-- `Get(sClient)`. -/
def get (manager : SocketInfoManager α) (sClient : SocketClientData) : Option (Option α) :=
  (channelIndex sClient).map fun i => (manager.channels i).get sClient

/-- `Remove(sClient)`. -/
def remove (manager : SocketInfoManager α) (sClient : SocketClientData) :
    Option (SocketInfoManager α) :=
  (channelIndex sClient).map fun i =>
    ⟨Function.update manager.channels i ((manager.channels i).remove sClient)⟩

/-- The channels read as one map. -/
def lookup (manager : SocketInfoManager α) (sClient : SocketClientData) : Option α :=
  (channelIndex sClient).bind fun i => (manager.channels i).get sClient

theorem channelIndex_of_nonneg {sClient : SocketClientData} (nonneg : 0 ≤ sClient.Socket) :
    ∃ i, channelIndex sClient = some i := by
  have zero : (0 : Int32).toInt = 0 := rfl
  rw [Int32.le_iff_toInt_le, zero] at nonneg
  have value : (hash sClient).toInt = sClient.Socket.toInt.tmod 256 :=
    Int32.toInt_mod sClient.Socket socketChannelNum
  have low := Int.tmod_nonneg 256 nonneg
  have high := Int.tmod_lt_of_pos sClient.Socket.toInt (show (0 : Int) < 256 by decide)
  unfold channelIndex
  rw [dif_pos ⟨by omega, by omega⟩]
  exact ⟨_, rfl⟩

@[simp] theorem lookup_new (sClient : SocketClientData) :
    (new : SocketInfoManager α).lookup sClient = none := by
  unfold lookup
  cases channelIndex sClient <;> rfl

/-- Where `Get` has a result, it is the one of the map. -/
theorem get_eq_some_iff {manager : SocketInfoManager α} {sClient : SocketClientData}
    {pConn : Option α} :
    manager.get sClient = some pConn ↔
      (∃ i, channelIndex sClient = some i) ∧ manager.lookup sClient = pConn := by
  unfold get lookup
  cases channelIndex sClient <;> simp

theorem lookup_add {manager next : SocketInfoManager α} {sClient : SocketClientData} {pConn : α}
    (added : manager.add sClient pConn = some next) (other : SocketClientData) :
    next.lookup other = if sClient = other then some pConn else manager.lookup other := by
  obtain ⟨i, index, rfl⟩ := Option.map_eq_some_iff.mp added
  unfold lookup
  by_cases same : sClient = other
  · subst same
    simp [index, SocketInfoChannel.add, SocketInfoChannel.get]
  · rw [if_neg same]
    refine congrArg _ (funext fun j => ?_)
    by_cases here : j = i
    · subst here
      simp [SocketInfoChannel.add, SocketInfoChannel.get, same]
    · simp [Function.update_of_ne here]

theorem lookup_remove {manager next : SocketInfoManager α} {sClient : SocketClientData}
    (removed : manager.remove sClient = some next) (other : SocketClientData) :
    next.lookup other = if sClient = other then none else manager.lookup other := by
  obtain ⟨i, index, rfl⟩ := Option.map_eq_some_iff.mp removed
  unfold lookup
  by_cases same : sClient = other
  · subst same
    simp [index, SocketInfoChannel.remove, SocketInfoChannel.get]
  · rw [if_neg same]
    refine congrArg _ (funext fun j => ?_)
    by_cases here : j = i
    · subst here
      simp [SocketInfoChannel.remove, SocketInfoChannel.get, same]
    · simp [Function.update_of_ne here]

end SocketInfoManager

end ServerLib
