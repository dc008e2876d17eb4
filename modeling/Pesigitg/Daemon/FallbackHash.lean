import Pesigitg.Daemon.Packet
import Mathlib.Data.Nat.ModEq

/-!
# Removing a server from the fallback pool

The fallback choice is the flow's hash modulo the pool's size. Taking one server out changes
the modulus for every flow, so a flow that was hashed to a server that stays keeps it only when
a divisibility between its hash and the pool's size happens to hold.
-/

namespace Pesigitg

open Base

/-- Where a hash lands, counted in the full pool, once the server at `removed` is gone and the
others have moved up. -/
def landing (hash size removed : Nat) : Nat :=
  if hash % (size - 1) < removed then hash % (size - 1) else hash % (size - 1) + 1

/-- The hashes that land on the same server with and without the one at `removed`. -/
def Stays (hash size removed : Nat) : Prop :=
  hash % size < removed ∧ size - 1 ∣ hash / size ∨
    removed < hash % size ∧ size - 1 ∣ hash / size + 1

/-- Adding a multiple of the modulus changes no remainder, and adding anything else does. -/
theorem add_mod_eq_iff_dvd {step rest modulus : Nat} (small : rest < modulus) :
    (step + rest) % modulus = rest ↔ modulus ∣ step := by
  have reduced : rest % modulus = rest := Nat.mod_eq_of_lt small
  constructor
  · intro same
    have congruent : step + rest ≡ 0 + rest [MOD modulus] := by
      rw [Nat.ModEq, same, Nat.zero_add, reduced]
    exact (Nat.modEq_zero_iff_dvd).mp (congruent.add_right_cancel' rest)
  · rintro ⟨factor, rfl⟩
    rw [Nat.mul_add_mod, reduced]

/-- One server less: the residue moves by the quotient. -/
theorem mod_pred {hash size : Nat} :
    hash % (size - 1) = (hash / size + hash % size) % (size - 1) := by
  cases size with
  | zero => simp
  | succ count =>
    have split := Nat.div_add_mod hash (count + 1)
    have regroup : hash = count * (hash / (count + 1)) +
        (hash / (count + 1) + hash % (count + 1)) := by
      calc hash = (count + 1) * (hash / (count + 1)) + hash % (count + 1) := split.symm
        _ = count * (hash / (count + 1)) + (hash / (count + 1) + hash % (count + 1)) := by ring
    rw [Nat.add_sub_cancel]
    nth_rewrite 1 [regroup]
    rw [Nat.mul_add_mod]

/-- A flow that was not on the removed server lands where it was exactly if its hash stays. -/
theorem landing_eq_iff {hash size removed : Nat} (several : 1 < size) (inside : removed < size)
    (other : hash % size ≠ removed) : landing hash size removed = hash % size ↔
      Stays hash size removed := by
  have below : hash % size < size := Nat.mod_lt _ (by omega)
  unfold landing Stays
  rcases Nat.lt_or_gt_of_ne other with before | behind
  · -- In front of the gap the position stays what it was.
    have residue : hash % (size - 1) = hash % size ↔ size - 1 ∣ hash / size := by
      rw [mod_pred]
      exact add_mod_eq_iff_dvd (by omega)
    rw [← residue]
    constructor
    · intro same
      left
      split at same
      · exact ⟨before, same⟩
      · omega
    · rintro (⟨-, same⟩ | ⟨behind, -⟩)
      · rw [if_pos (by omega), same]
      · omega
  · -- Behind it every server moves up by one.
    have residue : hash % (size - 1) = hash % size - 1 ↔ size - 1 ∣ hash / size + 1 := by
      rw [mod_pred, show hash / size + hash % size = hash / size + 1 + (hash % size - 1) by omega]
      exact add_mod_eq_iff_dvd (by omega)
    rw [← residue]
    constructor
    · intro same
      right
      split at same
      · omega
      · exact ⟨behind, by omega⟩
    · rintro (⟨before, -⟩ | ⟨-, same⟩)
      · omega
      · rw [if_neg (by omega)]
        omega

section Choice

variable (hash : FlowKey → UInt64) (flow : FlowKey) {servers : List Server} {removed : Nat}

/-- The MAC of the server at a position of the pool. -/
def macAt (servers : List Server) (position : Nat) : Option Mac := servers[position]?.bind Server.mac

/-- The choice is the MAC at the hash modulo the size of the pool. -/
theorem fallbackMac_eq (pool : 0 < servers.length) :
    fallbackMac hash flow servers =
      .ok (macAt servers ((hash flow).toNat % servers.length)) := by
  have inside := Nat.mod_lt (hash flow).toNat pool
  have occupied : servers.isEmpty = false := by
    rw [List.isEmpty_eq_false_iff]
    exact List.ne_nil_of_length_pos pool
  simp only [fallbackMac, occupied, Bool.false_eq_true, if_false, serverAt,
    List.getElem?_eq_getElem inside, Checked.ok_bind, Checked.pure_eq_ok, macAt, Option.bind_some]

/-- Taking a server out moves those behind it one forward. -/
theorem macAt_eraseIdx (position : Nat) : macAt (servers.eraseIdx removed) position =
    macAt servers (if position < removed then position else position + 1) := by
  unfold macAt
  rw [List.getElem?_eraseIdx]
  split <;> rfl

/-- The choice from the pool without one server, in terms of the full pool. -/
theorem fallbackMac_eraseIdx (several : 1 < servers.length) (inside : removed < servers.length) :
    fallbackMac hash flow (servers.eraseIdx removed) =
      .ok (macAt servers (landing (hash flow).toNat servers.length removed)) := by
  have shorter : (servers.eraseIdx removed).length = servers.length - 1 :=
    List.length_eraseIdx_of_lt inside
  rw [fallbackMac_eq hash flow (by omega), macAt_eraseIdx, shorter, landing]

end Choice

/-- In a pool of distinct MACs, a MAC tells the position. -/
theorem macAt_injective {servers : List Server}
    (distinct : servers.Pairwise fun server other => server.mac ≠ other.mac)
    {position other : Nat} (inside : position < servers.length) (inside' : other < servers.length)
    (same : macAt servers position = macAt servers other) : position = other := by
  simp only [macAt, List.getElem?_eq_getElem inside, List.getElem?_eq_getElem inside',
    Option.bind_some] at same
  have apart := List.pairwise_iff_getElem.mp distinct
  rcases Nat.lt_trichotomy position other with before | equal | behind
  · exact absurd same (apart position other inside inside' before)
  · exact equal
  · exact absurd same.symm (apart other position inside' inside behind)

/-- The server a hash lands on is one of the pool. -/
theorem landing_lt {hash size removed : Nat} (several : 1 < size) :
    landing hash size removed < size := by
  have below : hash % (size - 1) < size - 1 := Nat.mod_lt _ (by omega)
  unfold landing
  split <;> omega

/-- Taking out a server the flow was not hashed to leaves the flow's choice alone if the hash
stays; and where no two servers of the pool share a MAC, only then. -/
theorem fallback_choice_kept_iff (hash : FlowKey → UInt64) (flow : FlowKey) (servers : List Server)
    (removed : Nat) (inside : removed < servers.length) :
    ((hash flow).toNat % servers.length = removed ∨
        Stays (hash flow).toNat servers.length removed →
      (hash flow).toNat % servers.length ≠ removed →
        fallbackMac hash flow (servers.eraseIdx removed) = fallbackMac hash flow servers) ∧
      ((servers.Pairwise fun server other => server.mac ≠ other.mac) →
        (((hash flow).toNat % servers.length ≠ removed →
            fallbackMac hash flow (servers.eraseIdx removed) = fallbackMac hash flow servers) ↔
          (hash flow).toNat % servers.length = removed ∨
            Stays (hash flow).toNat servers.length removed)) := by
  by_cases chosen : (hash flow).toNat % servers.length = removed
  · exact ⟨fun _ other => absurd chosen other, fun _ => iff_of_true (absurd chosen) (.inl chosen)⟩
  have several : 1 < servers.length := by
    -- A pool of one server chooses that server for every flow.
    rcases Nat.lt_or_ge 1 servers.length with several | single
    · exact several
    · have one : servers.length = 1 := by omega
      rw [one, Nat.mod_one] at chosen
      omega
  have position := landing_eq_iff several inside chosen
  rw [imp_iff_right chosen, or_iff_right chosen, fallbackMac_eraseIdx hash flow several inside,
    fallbackMac_eq hash flow (by omega), Except.ok.injEq]
  refine ⟨fun stays => congrArg (macAt servers) (position.mpr stays), fun distinct => ?_⟩
  constructor
  · intro same
    exact position.mp (macAt_injective distinct (landing_lt several)
      (Nat.mod_lt _ (by omega)) same)
  · exact fun stays => congrArg (macAt servers) (position.mpr stays)

namespace SamplePool

/-- A resolved server whose address and MAC end in `tag`. -/
def server (tag : UInt8) : Server :=
  { id := [tag], address := .v4 ⟨[192, 0, 2, tag], rfl⟩, mac := some ⟨[2, 0, 0, 0, 0, tag], rfl⟩,
    draining := false, healthy := true, transitions := 0, stateSince := none }

/-- Three servers. -/
def pool : List Server := [server 1, server 2, server 3]

/-- A client's flow. -/
def flow : FlowKey := ⟨.v4 ⟨[203, 0, 113, 9], rfl⟩, .v4 ⟨[192, 0, 2, 200], rfl⟩, 40000, 443⟩

end SamplePool

/-- A flow with hash 5 is on the third of three servers and stays there when the first goes; one
with hash 4 is on the second, and by its hash alone does not stay when the third goes. -/
theorem fallback_choice_kept_five :
    (SamplePool.pool.Pairwise fun server other => server.mac ≠ other.mac) ∧
      fallbackMac (fun _ => 5) SamplePool.flow (SamplePool.pool.eraseIdx 0) =
        fallbackMac (fun _ => 5) SamplePool.flow SamplePool.pool ∧
      fallbackMac (fun _ => 4) SamplePool.flow (SamplePool.pool.eraseIdx 2) ≠
        fallbackMac (fun _ => 4) SamplePool.flow SamplePool.pool := by
  have distinct : SamplePool.pool.Pairwise fun server other => server.mac ≠ other.mac := by decide
  refine ⟨distinct, ?_, ?_⟩
  · have kept := fallback_choice_kept_iff (fun _ => 5) SamplePool.flow SamplePool.pool 0 (by decide)
    exact kept.1 (.inr (.inr ⟨by decide, by decide⟩)) (by decide)
  · intro same
    have sharp :=
      fallback_choice_kept_iff (fun _ => 4) SamplePool.flow SamplePool.pool 2 (by decide)
    rcases (sharp.2 distinct).mp fun _ => same with chosen | ⟨-, divides⟩ | ⟨behind, -⟩
    · exact absurd chosen (by decide)
    · exact absurd divides (by decide)
    · exact absurd behind (by decide)

/-- A flow with hash 4 is on the second of three servers; when the third goes, it moves to the
first. -/
theorem fallback_moves_to_other_server :
    fallbackMac (fun _ => 4) SamplePool.flow SamplePool.pool =
        .ok (some ⟨[2, 0, 0, 0, 0, 2], rfl⟩) ∧
      SamplePool.pool[2]? = some (SamplePool.server 3) ∧
      fallbackMac (fun _ => 4) SamplePool.flow (SamplePool.pool.eraseIdx 2) =
        .ok (some ⟨[2, 0, 0, 0, 0, 1], rfl⟩) := by
  decide

end Pesigitg
