import ServerLib.Library.Transition
import ServerLib.SocketInfoManager

/-!
# The registry as one map

`CSocketInfoManager` spreads its entries over 256 channels, and a caller should
not be able to tell: whatever sequence of `Add`, `Get` and `Remove` has been made,
`Get` should answer as one map would.  The keys are not under the registry's own
control.  `CTcpServer::Send` and `CTcpServer::CloseClient` hand it any key their
caller names, and the proxy reads such keys out of packets.

The specification is a history: `registered calls sClient` looks back through the
calls made so far for the last `Add` or `Remove` of an equal key.  It knows nothing
of channels, of maps or of `operator<`.  `RefinesOneMap calls` says that every call
of the sequence finds a channel inside the array, and that every `Get` answers with
the history.

## Where the refinement stops

The channel is a remainder, and the remainder of C has the sign of its left
operand.  `refinesOneMap_iff` is the exact extent of the refinement: it holds of a
sequence of calls if and only if no call names a key whose `Socket` is negative and
not a multiple of 256.  A key with `Socket = -1` asks for channel −1.

## What is load-bearing

`lookup_add` and `lookup_remove`, and through them the contract of `operator<`: if
the comparison merged two keys, an `Add` of one would answer a `Get` of the other.
-/

namespace ServerLib

open Transition

namespace SocketInfoManager

variable {α : Type}

/-- One call on the registry. -/
inductive Call (α : Type) where
  | add (sClient : SocketClientData) (pConn : α)
  | get (sClient : SocketClientData)
  | remove (sClient : SocketClientData)
  deriving DecidableEq

namespace Call

/-- The key a call names. -/
def key : Call α → SocketClientData
  | add sClient _ => sClient
  | get sClient => sClient
  | remove sClient => sClient

/-- Whether a call decides what is registered under a key: it is an `Add` or a
`Remove` of an equal one. -/
def settles (call : Call α) (sClient : SocketClientData) : Bool :=
  match call with
  | add key _ => key.equal sClient
  | get _ => false
  | remove key => key.equal sClient

/-- What a call leaves registered under its key, where it decides it. -/
def stored : Call α → Option α
  | add _ pConn => some pConn
  | get _ => none
  | remove _ => none

end Call

/-- The registry after a call; `none` where the call indexes outside the array. -/
def call (manager : SocketInfoManager α) : Call α → Option (SocketInfoManager α)
  | .add sClient pConn => manager.add sClient pConn
  | .get sClient => (manager.get sClient).map fun _ => manager
  | .remove sClient => manager.remove sClient

/-- **The one map**: what the last `Add` of an equal key stored, unless a `Remove` of
it came later. -/
def registered (calls : List (Call α)) (sClient : SocketClientData) : Option α :=
  (calls.reverse.find? fun call => call.settles sClient).bind Call.stored

/-- The channel index of a key is an index of the array. -/
def InArray (sClient : SocketClientData) : Prop :=
  0 ≤ (hash sClient).toInt ∧ (hash sClient).toInt < 256

/-- **The sharded registry is one map** along a sequence of calls: each call finds
its channel inside the array, and each `Get` answers with the history before it. -/
def RefinesOneMap (calls : List (Call α)) : Prop :=
  ∀ front call back, calls = front ++ call :: back →
    ∃ manager, run SocketInfoManager.call new front = some manager ∧ InArray call.key ∧
      ∀ sClient, call = .get sClient → manager.get sClient = some (registered front sClient)

/-! ## The channel of a key -/

/-- The remainder of C is in the array exactly for the keys that are not negative
and for the multiples of 256. -/
theorem inArray_iff {sClient : SocketClientData} :
    InArray sClient ↔ 0 ≤ sClient.Socket ∨ (256 : Int) ∣ sClient.Socket.toInt := by
  have value : (hash sClient).toInt = sClient.Socket.toInt.tmod 256 :=
    Int32.toInt_mod sClient.Socket socketChannelNum
  have zero : (0 : Int32).toInt = 0 := rfl
  rw [Int32.le_iff_toInt_le, zero, InArray, value, Int.dvd_iff_tmod_eq_zero]
  have high := Int.tmod_lt_of_pos sClient.Socket.toInt (show (0 : Int) < 256 by decide)
  constructor
  · rintro ⟨low, -⟩
    rcases Int.lt_or_le sClient.Socket.toInt 0 with negative | nonneg
    · -- A negative number has no positive remainder, so this one has remainder zero.
      have opposite := Int.tmod_nonneg 256 (show 0 ≤ -sClient.Socket.toInt by omega)
      rw [Int.neg_tmod] at opposite
      exact Or.inr (by omega)
    · exact Or.inl nonneg
  · rintro (nonneg | divides)
    · exact ⟨Int.tmod_nonneg 256 nonneg, high⟩
    · exact ⟨by omega, high⟩

theorem channelIndex_isSome {sClient : SocketClientData} :
    (∃ i, channelIndex sClient = some i) ↔ InArray sClient := by
  unfold channelIndex InArray
  split
  · next bound => exact iff_of_true ⟨_, rfl⟩ bound
  · next bound => exact iff_of_false (fun ⟨_, found⟩ => by cases found) bound

/-- A call goes through exactly where its channel is in the array. -/
theorem call_isSome {manager : SocketInfoManager α} {call : Call α} :
    (∃ next, manager.call call = some next) ↔ InArray call.key := by
  rw [← channelIndex_isSome]
  cases call <;> simp [SocketInfoManager.call, add, get, remove, Call.key]

/-! ## The history -/

theorem registered_concat (calls : List (Call α)) (call : Call α) (sClient : SocketClientData) :
    registered (calls ++ [call]) sClient =
      if call.settles sClient then call.stored else registered calls sClient := by
  unfold registered
  rw [List.reverse_append, List.reverse_singleton, List.singleton_append, List.find?_cons]
  split
  · next settled => rw [settled, if_pos rfl, Option.bind_some]
  · next unsettled => rw [unsettled, if_neg Bool.false_ne_true]

/-- **One call keeps the two sides together.** -/
theorem lookup_call {manager next : SocketInfoManager α} {calls : List (Call α)} {call : Call α}
    (agree : ∀ sClient, manager.lookup sClient = registered calls sClient)
    (taken : manager.call call = some next) (sClient : SocketClientData) :
    next.lookup sClient = registered (calls ++ [call]) sClient := by
  rw [registered_concat]
  cases call with
  | add key pConn =>
      rw [lookup_add taken, agree]
      exact if_congr SocketClientData.equal_iff.symm rfl rfl
  | get key =>
      obtain ⟨answer, -, rfl⟩ := Option.map_eq_some_iff.mp taken
      exact agree sClient
  | remove key =>
      rw [lookup_remove taken, agree]
      exact if_congr SocketClientData.equal_iff.symm rfl rfl

/-- **After any sequence of calls the channels, read as one map, are the history.** -/
theorem lookup_run (calls : List (Call α)) {manager : SocketInfoManager α}
    (runs : run SocketInfoManager.call new calls = some manager) (sClient : SocketClientData) :
    manager.lookup sClient = registered calls sClient := by
  refine run_history (P := fun calls manager =>
    ∀ sClient, manager.lookup sClient = registered calls sClient) ?_ ?_ calls runs sClient
  · intro sClient
    exact lookup_new sClient
  · intro calls call manager next agree taken
    exact lookup_call agree taken

/-! ## The refinement -/

/-- **The registry refines one map exactly on the keys with a channel.** -/
theorem refinesOneMap_iff (calls : List (Call α)) :
    RefinesOneMap calls ↔
      ∀ call ∈ calls, 0 ≤ call.key.Socket ∨ (256 : Int) ∣ call.key.Socket.toInt := by
  simp only [← inArray_iff]
  constructor
  · intro refines call member
    obtain ⟨front, back, rfl⟩ := List.append_of_mem member
    obtain ⟨manager, -, inside, -⟩ := refines front call back rfl
    exact inside
  · rintro inside front call back rfl
    have along : Along SocketInfoManager.call (fun _ call => InArray call.key) new front :=
      along_of_labels front (fun earlier member _ =>
        inside earlier (List.mem_append_left _ member)) (new : SocketInfoManager α)
    obtain ⟨manager, runs⟩ := exists_run_along (I := fun _ => True)
      (fun _ _ _ _ _ _ => trivial) (fun _ _ _ met => call_isSome.mpr met) front trivial along
    have here : InArray call.key := inside call (by simp)
    refine ⟨manager, runs, here, ?_⟩
    rintro sClient rfl
    exact get_eq_some_iff.mpr ⟨channelIndex_isSome.mpr here, lookup_run front runs sClient⟩

/-- One `Get` of a key with `Socket = -1` already asks for channel −1. -/
theorem not_refinesOneMap_negative :
    ¬ RefinesOneMap [(Call.get ⟨2130706433, 4000, -1⟩ : Call ℕ)] := by
  intro refines
  obtain ⟨manager, -, inside, -⟩ := refines [] _ [] rfl
  exact absurd inside.1 (by decide)

end SocketInfoManager

end ServerLib
