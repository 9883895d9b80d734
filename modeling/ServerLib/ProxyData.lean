import ServerLib.Framer
import ServerLib.Library.LittleEndian

/-!
# What the two proxies send along

Both proxies (test/tcpproxy.cpp, test/udpproxy.cpp) copy a client's address into the
requests they forward, as the bytes the variables have in memory, and cast the same
bytes back to an address when the reply comes in.  This module is that copy and that
cast: `unsigned int` and `unsigned short`, and the packed `SocketClientData_t` made of
them, ten bytes without padding.

The proxies also index an array of clients with an `int` they compute from the address.
`element` is the access, with no element outside the array.
-/

namespace ServerLib

open LittleEndian

/-! ## Objects as bytes -/

/-- The bytes `(char*)&n .. (char*)&n + sizeof(n)` of an `unsigned int`. -/
def unsignedBytes (n : UInt32) : Bytes := bytesLE 4 n.toNat

/-- `*(unsigned int*)p`. -/
def readUnsigned (p : Bytes) : UInt32 := UInt32.ofNat (readLE 4 p)

/-- The bytes `(char*)&n .. (char*)&n + sizeof(n)` of an `unsigned short`. -/
def unsignedShortBytes (n : UInt16) : Bytes := bytesLE 2 n.toNat

/-- `*(unsigned short*)p`. -/
def readUnsignedShort (p : Bytes) : UInt16 := UInt16.ofNat (readLE 2 p)

@[simp] theorem length_unsignedBytes (n : UInt32) : (unsignedBytes n).length = 4 :=
  length_bytesLE 4 n.toNat

@[simp] theorem length_unsignedShortBytes (n : UInt16) : (unsignedShortBytes n).length = 2 :=
  length_bytesLE 2 n.toNat

@[simp] theorem readUnsigned_append (n : UInt32) (more : Bytes) :
    readUnsigned (unsignedBytes n ++ more) = n := by
  rw [readUnsigned, unsignedBytes, readLE_bytesLE_append_of_lt n.toNat_lt, UInt32.ofNat_toNat]

@[simp] theorem readUnsignedShort_append (n : UInt16) (more : Bytes) :
    readUnsignedShort (unsignedShortBytes n ++ more) = n := by
  rw [readUnsignedShort, unsignedShortBytes, readLE_bytesLE_append_of_lt n.toNat_lt,
    UInt16.ofNat_toNat]

theorem readInt_intBytes_append (n : Int32) (more : Bytes) :
    readInt (intBytes n ++ more) = n := by
  rw [readInt_append (length_intBytes n).ge, readInt_intBytes]

namespace SocketClientData

/-- `sizeof(SocketClientData_t)`, packed. -/
def size : ℕ := 10

/-- The bytes `(char*)&sClient .. (char*)&sClient + sizeof(SocketClientData_t)`. -/
def bytes (sClient : SocketClientData) : Bytes :=
  unsignedBytes sClient.IP ++ unsignedShortBytes sClient.Port ++ intBytes sClient.Socket

/-- `*(SocketClientData_t*)p`. -/
def read (p : Bytes) : SocketClientData where
  IP := readUnsigned p
  Port := readUnsignedShort (p.drop 4)
  Socket := readInt (p.drop 6)

@[simp] theorem length_bytes (sClient : SocketClientData) : sClient.bytes.length = size := by
  simp [bytes, size]

/-- **The key that was copied is the key that is cast back.** -/
@[simp] theorem read_bytes_append (sClient : SocketClientData) (more : Bytes) :
    read (sClient.bytes ++ more) = sClient := by
  have port : (sClient.bytes ++ more).drop 4 =
      unsignedShortBytes sClient.Port ++ (intBytes sClient.Socket ++ more) := by
    simp [bytes]
  have socket : (sClient.bytes ++ more).drop 6 = intBytes sClient.Socket ++ more := by
    simp [bytes, List.drop_append]
  rw [read, port, socket, readUnsignedShort_append, readInt_intBytes_append, bytes,
    List.append_assoc, List.append_assoc, readUnsigned_append]

end SocketClientData

/-! ## Conversions between `int` and `unsigned int` -/

/-- An `int` that is not negative keeps its value as an `unsigned int`. -/
theorem toNat_toUInt32 {n : Int32} (nonneg : 0 ≤ n.toInt) :
    (n.toUInt32.toNat : Int) = n.toInt := by
  have value : n.toInt = (n.toUInt32.toNat : Int).bmod 4294967296 :=
    BitVec.toInt_eq_toNat_bmod n.toBitVec
  have bound := n.toUInt32.toNat_lt
  rw [Int.bmod_def] at value
  norm_num at value
  split at value <;> omega

/-- An `unsigned int` of at most `INT_MAX` keeps its value as an `int`. -/
theorem toInt_toInt32 {n : UInt32} (small : n.toNat < 2147483648) :
    n.toInt32.toInt = n.toNat := by
  have value : n.toInt32.toInt = (n.toNat : Int).bmod 4294967296 :=
    BitVec.toInt_eq_toNat_bmod n.toBitVec
  rw [value, Int.bmod_def]
  norm_num
  split <;> omega

/-! ## Arrays -/

/-- The element of an array at an `int`, where there is one. -/
def element {α : Type} (array : List α) (i : Int32) : Option α :=
  if 0 ≤ i.toInt then array[i.toInt.toNat]? else none

theorem element_mem {α : Type} {array : List α} {i : Int32} {entry : α}
    (found : element array i = some entry) : entry ∈ array := by
  obtain ⟨-, found⟩ := Option.ite_none_right_eq_some.mp found
  exact List.mem_of_getElem? found

theorem exists_element {α : Type} {array : List α} {i : Int32} (nonneg : 0 ≤ i.toInt)
    (inside : i.toInt < array.length) : ∃ entry, element array i = some entry := by
  have bound : i.toInt.toNat < array.length := by omega
  rw [element, if_pos nonneg, List.getElem?_eq_getElem bound]
  exact ⟨_, rfl⟩

end ServerLib
