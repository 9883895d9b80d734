import ServerLib.Library.Transition

/-!
# Two programs and the streams between them

Two guarded step functions side by side: a caller, which opens connections, and a callee,
which accepts them.  Each program numbers its connections in its own way and has its own
record of what it has sent on each and what it has received there; no step of either is
changed.  `links` says which number of the caller and which of the callee are the two ends of
one connection.  The callee may have other connections, of which nothing is known.

`Carries` is all the network does: what has been received at one end is the front of what was
sent at the other, and nothing is received on a connection that has no other end yet.  When
anything arrives, in pieces of which size, and whether it ever does, is left open.

`Carries.comes_back` is the law of a callee that returns what it gets, and `comes_back_of_run`
takes the invariants of the two programs to the pair, with that law for the caller to use.
-/

namespace ServerLib.Network

open Transition

universe u v u' v' w

/-- A program, and what it has received and sent on each of its connections. -/
structure Side (σ : Type u) (ε : Type v) (β : Type w) where
  step : σ → ε → Option σ
  received : ℕ → σ → List β
  sent : ℕ → σ → List β

/-- The two programs.  The caller has opened the connections below `opened`; the callee
accepts one with a label that `accepts` it, and gives it the number `next`. -/
structure Pair (σ : Type u) (ε : Type v) (τ : Type u') (η : Type v') (β : Type w) where
  caller : Side σ ε β
  callee : Side τ η β
  opened : σ → ℕ
  accepts : η → Bool
  next : τ → ℕ
  /-- The connections on which the caller has received something. -/
  heard : σ → List ℕ
  received_eq_nil : ∀ {number state}, number ∉ heard state → caller.received number state = []

/-- The two states, and the two ends of every connection between them. -/
structure Net (σ : Type u) (τ : Type u') where
  caller : σ
  callee : τ
  links : List (ℕ × ℕ)

/-- Who moves. -/
inductive Label (ε : Type v) (η : Type v') where
  | caller (move : ε)
  /-- The callee, which may accept connections of others. -/
  | callee (move : η)
  /-- The callee accepts the connection `number` of the caller. -/
  | accept (number : ℕ) (move : η)
  deriving DecidableEq, Repr

namespace Label

variable {ε : Type v} {η : Type v'}

/-- The move of the caller in a step. -/
def ofCaller : Label ε η → Option ε
  | .caller move => some move
  | .callee _ | .accept .. => none

/-- The move of the callee in a step. -/
def ofCallee : Label ε η → Option η
  | .caller _ => none
  | .callee move | .accept _ move => some move

end Label

variable {σ : Type u} {ε : Type v} {τ : Type u'} {η : Type v'} {β : Type w}

namespace Pair

/-- What has been received is the front of what was sent at the other end, and there is
another end. -/
def Carries (pair : Pair σ ε τ η β) (net : Net σ τ) : Prop :=
  (∀ link ∈ net.links,
    pair.caller.received link.1 net.caller <+: pair.callee.sent link.2 net.callee ∧
      pair.callee.received link.2 net.callee <+: pair.caller.sent link.1 net.caller) ∧
  ∀ number ∈ pair.heard net.caller, number ∈ net.links.map Prod.fst

instance [DecidableEq β] (pair : Pair σ ε τ η β) (net : Net σ τ) : Decidable (pair.Carries net) :=
  inferInstanceAs (Decidable (_ ∧ _))

/-- The network does as it should, or it is not a step. -/
def carried [DecidableEq β] (pair : Pair σ ε τ η β) (net : Net σ τ) : Option (Net σ τ) :=
  if pair.Carries net then some net else none

/-- One step. -/
def step [DecidableEq β] (pair : Pair σ ε τ η β) (net : Net σ τ) : Label ε η → Option (Net σ τ)
  | .caller move =>
      (pair.caller.step net.caller move).bind fun after =>
        pair.carried { net with caller := after }
  | .callee move =>
      (pair.callee.step net.callee move).bind fun after =>
        pair.carried { net with callee := after }
  | .accept number move =>
      if number < pair.opened net.caller ∧ number ∉ net.links.map Prod.fst ∧
          pair.accepts move = true then
        (pair.callee.step net.callee move).bind fun after =>
          pair.carried { net with
            callee := after
            links := net.links ++ [(number, pair.next net.callee)] }
      else
        none

/-- The moves of the two programs in a step meet their conditions. -/
def Both (C : σ → ε → Prop) (D : τ → η → Prop) (net : Net σ τ) (label : Label ε η) : Prop :=
  (∀ move ∈ label.ofCaller, C net.caller move) ∧ ∀ move ∈ label.ofCallee, D net.callee move

instance (C : σ → ε → Prop) (D : τ → η → Prop) [∀ state move, Decidable (C state move)]
    [∀ state move, Decidable (D state move)] (net : Net σ τ) (label : Label ε η) :
    Decidable (Both C D net label) :=
  inferInstanceAs (Decidable (_ ∧ _))

variable [DecidableEq β] {pair : Pair σ ε τ η β} {net after : Net σ τ} {label : Label ε η}

/-- **What a step is**: a step of one of the two programs, behind which the network does as it
should.  Where the callee moves, its next connection may become the other end of one of the
caller's. -/
theorem step_cases (taken : pair.step net label = some after) :
    pair.Carries after ∧
      ((∃ move ∈ label.ofCaller, pair.caller.step net.caller move = some after.caller ∧
          after.callee = net.callee ∧ after.links = net.links) ∨
        ∃ move ∈ label.ofCallee, pair.callee.step net.callee move = some after.callee ∧
          after.caller = net.caller ∧
          ∀ link ∈ after.links, link ∈ net.links ∨
            link.1 < pair.opened net.caller ∧ link.2 = pair.next net.callee) := by
  have carries : ∀ {moved : Net σ τ}, pair.carried moved = some after →
      moved = after ∧ pair.Carries after := by
    intro moved answered
    obtain ⟨carries, same⟩ := Option.ite_none_right_eq_some.mp answered
    obtain rfl := Option.some.inj same
    exact ⟨rfl, carries⟩
  cases label with
  | caller move =>
      obtain ⟨state, moved, answered⟩ := Option.bind_eq_some_iff.mp taken
      obtain ⟨rfl, carries⟩ := carries answered
      exact ⟨carries, Or.inl ⟨move, rfl, moved, rfl, rfl⟩⟩
  | callee move =>
      obtain ⟨state, moved, answered⟩ := Option.bind_eq_some_iff.mp taken
      obtain ⟨rfl, carries⟩ := carries answered
      exact ⟨carries, Or.inr ⟨move, rfl, moved, rfl, fun _ => Or.inl⟩⟩
  | accept number move =>
      obtain ⟨⟨opened, -⟩, called⟩ := Option.ite_none_right_eq_some.mp taken
      obtain ⟨state, moved, answered⟩ := Option.bind_eq_some_iff.mp called
      obtain ⟨rfl, carries⟩ := carries answered
      refine ⟨carries, Or.inr ⟨move, rfl, moved, rfl, fun link member => ?_⟩⟩
      rcases List.mem_append.mp member with member | member
      · exact Or.inl member
      · obtain rfl := List.mem_singleton.mp member
        exact Or.inr ⟨opened, rfl⟩

omit [DecidableEq β] in
/-- On a connection on which the caller has received something, both directions have two
ends. -/
theorem Carries.ends (carries : pair.Carries net) {number : ℕ}
    (heard : number ∈ pair.heard net.caller) :
    ∃ conn, (number, conn) ∈ net.links ∧
      pair.caller.received number net.caller <+: pair.callee.sent conn net.callee ∧
      pair.callee.received conn net.callee <+: pair.caller.sent number net.caller := by
  obtain ⟨⟨_, conn⟩, member, rfl⟩ := List.mem_map.mp (carries.2 number heard)
  exact ⟨conn, member, carries.1 _ member⟩

omit [DecidableEq β] in
/-- **What comes back.**  Where the callee has sent on a connection only what it received
there, the caller has received only what it sent: to the caller, back through the callee, from
the caller. -/
theorem Carries.comes_back (carries : pair.Carries net)
    (mirrors : ∀ conn, pair.callee.sent conn net.callee <+: pair.callee.received conn net.callee)
    (number : ℕ) :
    pair.caller.received number net.caller <+: pair.caller.sent number net.caller := by
  by_cases heard : number ∈ pair.heard net.caller
  · obtain ⟨conn, -, arrived, sent⟩ := carries.ends heard
    exact (arrived.trans (mirrors conn)).trans sent
  · rw [pair.received_eq_nil heard]
    exact List.nil_prefix

/-- **The rule for a callee that returns what it gets.**  An invariant of each program, kept by
the steps that meet its condition, holds of the two side by side, where that of the callee
says that it returns what it gets; and the caller may count on getting it back. -/
theorem comes_back_of_run {C : σ → ε → Prop} {D : τ → η → Prop} {I : σ → Prop} {J : τ → Prop}
    (mirrors : ∀ state, J state → ∀ conn,
      pair.callee.sent conn state <+: pair.callee.received conn state)
    (keptCaller : ∀ state move after, I state → C state move →
      pair.caller.step state move = some after →
      (∀ number, pair.caller.received number after <+: pair.caller.sent number after) → I after)
    (keptCallee : ∀ state move after, J state → D state move →
      pair.callee.step state move = some after → J after)
    {labels : List (Label ε η)} (carries : pair.Carries net) (startCaller : I net.caller)
    (startCallee : J net.callee) (along : Along pair.step (Both C D) net labels)
    (runs : run pair.step net labels = some after) :
    I after.caller ∧ J after.callee ∧ ∀ number,
      pair.caller.received number after.caller <+: pair.caller.sent number after.caller := by
  obtain ⟨carries, own, other⟩ := run_invariant_along
    (I := fun net => pair.Carries net ∧ I net.caller ∧ J net.callee)
    (fun net label after holds met taken => by
      obtain ⟨carries, ⟨move, own, moved, same, -⟩ | ⟨move, own, moved, same, -⟩⟩ :=
        step_cases taken
      · have other : J after.callee := same ▸ holds.2.2
        exact ⟨carries, keptCaller _ move _ holds.2.1 (met.1 move own) moved
          (carries.comes_back (mirrors _ other)), other⟩
      · exact ⟨carries, same ▸ holds.2.1, keptCallee _ move _ holds.2.2 (met.2 move own) moved⟩)
    labels ⟨carries, startCaller, startCallee⟩ along runs
  exact ⟨own, other, carries.comes_back (mirrors _ other)⟩

end Pair

end ServerLib.Network
