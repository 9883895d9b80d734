import ServerLib.Library.History
import ServerLib.TcpClient

/-!
# Who may close a descriptor

A descriptor number is a claim on whatever the kernel has behind it, and the claim ends
with `close`.  An object that closes a number again closes what has got the number
since: a file, or the connection of another client.

The law is about the calls of `socket` and `close` an object makes, in their order.
`holds calls fd` says that the object has got `fd` from `socket` and not closed it
since; `NoDoubleClose` asks this of every number that is given to `close`, and that the
number then still refers to a socket of the object.  The value −1 is no descriptor
number: `close` does nothing with it.

An object that keeps its number in `m_Socket`, and puts there what `socket` returns, has a
right to close it as long as `socket` was its last call (`Placed.close_iff`).
-/

namespace ServerLib

open History Transition

/-- A call of `socket` or `close` by one object. -/
inductive SocketCall where
  /-- `socket` returned `fd`. -/
  | socket (fd : Int32)
  /-- `close(fd)`, of a number that refers to `descriptor`. -/
  | close (fd : Int32) (descriptor : Option Descriptor)
  deriving DecidableEq, Repr

namespace SocketCall

/-- Whether a number is held behind one more call. -/
def holdsAfter (fd : Int32) (held : Bool) : SocketCall → Bool
  | socket obtained => if obtained = fd then true else held
  | close closed _ => if closed = fd then false else held

end SocketCall

/-- The number was got from `socket` and not closed since. -/
def holds (calls : List SocketCall) (fd : Int32) : Bool :=
  calls.foldl (SocketCall.holdsAfter fd) false

/-- **Every number that is closed is held, and refers to a socket of the object.** -/
def NoDoubleClose (calls : List SocketCall) : Prop :=
  ∀ front fd descriptor back, calls = front ++ .close fd descriptor :: back → 0 ≤ fd →
    holds front fd = true ∧ ∃ number, descriptor = some (.socket number)

theorem noDoubleClose_nil : NoDoubleClose [] := by
  intro front fd descriptor back same
  exact absurd same.symm (by simp)

/-- A call of `socket` keeps the law. -/
theorem noDoubleClose_socket {calls : List SocketCall} {fd : Int32} :
    NoDoubleClose (calls ++ [.socket fd]) ↔ NoDoubleClose calls := by
  constructor
  · intro law front fd' descriptor back same
    refine law front fd' descriptor (back ++ [.socket fd]) ?_
    rw [same, List.append_assoc, List.cons_append]
  · intro law front fd' descriptor back same nonneg
    rcases concat_eq_split.mp same with ⟨-, other, -⟩ | ⟨rest, -, before⟩
    · cases other
    · exact law front fd' descriptor rest before nonneg

/-- A call of `close` keeps it where the number is held. -/
theorem noDoubleClose_close {calls : List SocketCall} {fd : Int32}
    {descriptor : Option Descriptor} :
    NoDoubleClose (calls ++ [.close fd descriptor]) ↔ NoDoubleClose calls ∧
      (0 ≤ fd → holds calls fd = true ∧ ∃ number, descriptor = some (.socket number)) := by
  constructor
  · intro law
    refine ⟨fun front fd' descriptor' back same => ?_, law calls fd descriptor [] rfl⟩
    refine law front fd' descriptor' (back ++ [.close fd descriptor]) ?_
    rw [same, List.append_assoc, List.cons_append]
  · rintro ⟨law, here⟩ front fd' descriptor' back same nonneg
    rcases concat_eq_split.mp same with ⟨rfl, this, -⟩ | ⟨rest, -, before⟩
    · cases this
      exact here nonneg
    · exact law front fd' descriptor' rest before nonneg

/-! ## The table of descriptors -/

/-- What an object holds is what the kernel has under its numbers. -/
def Ledger (calls : List SocketCall) (owner : Int32 → Option Descriptor) : Prop :=
  ∀ fd, holds calls fd = true ↔ ∃ number, owner fd = some (.socket number)

section Ledger

variable {calls : List SocketCall} {owner : Int32 → Option Descriptor} {fd : Int32}

theorem ledger_nil : Ledger [] fun _ => none :=
  fun _ => iff_of_false Bool.false_ne_true nofun

theorem Ledger.socket (ledger : Ledger calls owner) (number : ℕ) :
    Ledger (calls ++ [.socket fd]) (Function.update owner fd (some (.socket number))) := by
  intro fd'
  rw [holds, List.foldl_append]
  by_cases same : fd' = fd
  · subst same
    rw [Function.update_self]
    exact iff_of_true (if_pos rfl) ⟨number, rfl⟩
  · rw [Function.update_of_ne same]
    exact (iff_of_eq (congrArg (· = true) (if_neg fun here => same here.symm))).trans (ledger fd')

theorem Ledger.close (ledger : Ledger calls owner) :
    Ledger (calls ++ [.close fd (owner fd)]) (Function.update owner fd none) := by
  intro fd'
  rw [holds, List.foldl_append]
  by_cases same : fd' = fd
  · subst same
    rw [Function.update_self]
    exact iff_of_false (by simp [SocketCall.holdsAfter]) nofun
  · rw [Function.update_of_ne same]
    exact (iff_of_eq (congrArg (· = true) (if_neg fun here => same here.symm))).trans (ledger fd')

/-- Opening and closing by others is not seen. -/
theorem Ledger.others (ledger : Ledger calls owner) {descriptor : Option Descriptor}
    (foreign : ∀ number, owner fd ≠ some (.socket number))
    (foreign' : ∀ number, descriptor ≠ some (.socket number)) :
    Ledger calls (Function.update owner fd descriptor) := by
  intro fd'
  by_cases same : fd' = fd
  · subst same
    rw [ledger fd', Function.update_self]
    exact iff_of_false (fun ⟨number, owns⟩ => foreign number owns)
      fun ⟨number, owns⟩ => foreign' number owns
  · rw [ledger fd', Function.update_of_ne same]

/-- **A close keeps the law exactly where the number refers to a socket of the
object.** -/
theorem Ledger.close_iff (ledger : Ledger calls owner) :
    NoDoubleClose (calls ++ [.close fd (owner fd)]) ↔ NoDoubleClose calls ∧
      (0 ≤ fd → ∃ number, owner fd = some (.socket number)) := by
  rw [noDoubleClose_close, ledger fd]
  exact and_congr_right fun _ => imp_congr_right fun _ => and_self_iff

end Ledger

/-! ## The number an object keeps -/

/-- The last of the calls is one of `socket`. -/
def justMade (calls : List SocketCall) : Bool :=
  match calls.getLast? with
  | some (.socket _) => true
  | _ => false

theorem justMade_socket (calls : List SocketCall) (fd : Int32) :
    justMade (calls ++ [.socket fd]) = true := by
  rw [justMade, List.getLast?_concat]

theorem justMade_close (calls : List SocketCall) (fd : Int32) (descriptor : Option Descriptor) :
    justMade (calls ++ [.close fd descriptor]) = false := by
  rw [justMade, List.getLast?_concat]

/-- The number in `m_Socket` is one of a socket of the object right behind `socket`, and not
otherwise. -/
structure Placed (calls : List SocketCall) (owner : Int32 → Option Descriptor) (socket : Int32) :
    Prop where
  ledger : Ledger calls owner
  made : 0 ≤ socket → (justMade calls = true ↔ ∃ number, owner socket = some (.socket number))

section Placed

variable {calls : List SocketCall} {owner : Int32 → Option Descriptor} {socket : Int32}

/-- Before the first call. -/
theorem placed_nil (socket : Int32) : Placed [] (fun _ => none) socket where
  ledger := ledger_nil
  made _ := iff_of_false Bool.false_ne_true nofun

/-- `m_Socket = socket(…)`, where the call returns a descriptor. -/
theorem Ledger.placed_socket (ledger : Ledger calls owner) (fd : Int32) (number : ℕ) :
    Placed (calls ++ [.socket fd]) (Function.update owner fd (some (.socket number))) fd where
  ledger := ledger.socket number
  made _ := iff_of_true (justMade_socket calls fd) ⟨number, Function.update_self ..⟩

/-- `m_Socket = socket(…)`, where the call fails. -/
theorem Ledger.placed_failed (ledger : Ledger calls owner) : Placed calls owner (-1) where
  ledger := ledger
  made nonneg := absurd (show (0 : Int32) ≤ -1 from nonneg) (by decide)

/-- `close(m_Socket)`, which leaves the number where it is. -/
theorem Placed.close (placed : Placed calls owner socket) :
    Placed (calls ++ [.close socket (owner socket)]) (Function.update owner socket none)
      socket where
  ledger := placed.ledger.close
  made _ := by
    refine iff_of_false (ne_true_of_eq_false (justMade_close ..)) ?_
    rintro ⟨number, owns⟩
    exact absurd ((Function.update_self ..).symm.trans owns) nofun

/-- **Closing `m_Socket` keeps the law exactly right behind `socket`**, or where there is no
number in it. -/
theorem Placed.close_iff (placed : Placed calls owner socket) :
    NoDoubleClose (calls ++ [.close socket (owner socket)]) ↔
      NoDoubleClose calls ∧ (justMade calls = true ∨ socket < 0) := by
  refine placed.ledger.close_iff.trans (and_congr_right fun _ => ?_)
  rw [← Int32.not_le, or_comm, ← imp_iff_not_or]
  exact imp_congr_right fun nonneg => (placed.made nonneg).symm

/-- What others open and close is not what is in `m_Socket`. -/
theorem Placed.others (placed : Placed calls owner socket) {fd : Int32}
    {descriptor : Option Descriptor} (foreign : ∀ number, owner fd ≠ some (.socket number))
    (foreign' : ∀ number, descriptor ≠ some (.socket number)) :
    Placed calls (Function.update owner fd descriptor) socket where
  ledger := placed.ledger.others foreign foreign'
  made nonneg := by
    refine (placed.made nonneg).trans (exists_congr fun number => ?_)
    rw [update_eq_some_iff]
    constructor
    · intro owns
      refine Or.inr ⟨?_, owns⟩
      rintro same
      exact foreign number (same ▸ owns)
    · rintro (⟨-, here⟩ | ⟨-, owns⟩)
      · exact absurd here (foreign' number)
      · exact owns

end Placed

end ServerLib
