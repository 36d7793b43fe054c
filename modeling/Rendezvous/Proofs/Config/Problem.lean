import Rendezvous.Config.Problem
import Rendezvous.Proofs.Address.List

/-!
# Rendezvous.Proofs.Config.Problem

Which settings are accepted: what no problem with a section says of it, and that the usual
settings have none.

* `NodeConfig.problems_eq_nil_iff`, and one for each section with a number in it that a part of
  the node is made with;
* `NodeConfig.problems_usual`, `NodeConfig.problems_usual_maxTtl`.
-/

namespace Rendezvous

theorem problemIf_eq_nil_iff {bad : Bool} {setting : Setting} {fault : SettingFault} :
    problemIf bad setting fault = [] ↔ bad = false := by
  cases bad <;> simp [problemIf]

theorem NetworkConfig.problems_eq_nil_iff {c : NetworkConfig} :
    c.problems = [] ↔
      (∃ a as, Multiaddr.parseList c.listen = .ok (a :: as)) ∧
      (∃ as, Multiaddr.parseList c.announce = .ok as) ∧ c.maxConnections ≠ 0 := by
  unfold problems
  rw [List.append_eq_nil_iff, List.append_eq_nil_iff, problemIf_eq_nil_iff, and_assoc]
  refine and_congr ?_ (and_congr ?_ (by simp))
  · rcases Multiaddr.parseList c.listen with e | _ | ⟨a, as⟩ <;> simp [problemIf]
  · rcases Multiaddr.parseList c.announce with e | as <;> simp

theorem StoreConfig.problems_eq_nil_iff {c : StoreConfig} :
    c.problems = [] ↔
      Text.allBlank c.location = false ∧ c.maxTtlSecs ≠ 0 ∧ c.sweepIntervalSecs ≠ 0 := by
  simp [problems, problemIf_eq_nil_iff]

theorem EmitterConfig.problems_eq_nil_iff {c : EmitterConfig} :
    c.problems = [] ↔
      if c.isEnabled then
        (∀ server, c.server = some server → ∃ url, SocketUrl.ofServer server = .ok url) ∧
          c.queueCapacity ≠ 0
      else c.mandatory = false := by
  unfold problems
  cases c.isEnabled with
  | false => exact problemIf_eq_nil_iff
  | true =>
      rw [if_pos rfl, if_pos rfl, List.append_eq_nil_iff, problemIf_eq_nil_iff]
      refine and_congr ?_ (by simp)
      cases c.server with
      | none => simp
      | some server => cases h : SocketUrl.ofServer server <;> simp [h]

namespace NodeConfig

theorem problems_eq_nil_iff {c : NodeConfig} :
    c.problems = [] ↔
      c.network.problems = [] ∧ c.store.problems = [] ∧ c.emitter.problems = [] ∧
        c.relay.problems = [] ∧ c.metrics.problems = [] := by
  simp [problems]

theorem parseList_usualListen :
    Multiaddr.parseList NetworkConfig.usualListen =
      .ok [[.ip4 ⟨0⟩, .port .tcp 4040], [.ip4 ⟨0⟩, .port .udp 4141, .bare .quic]] := by
  simp only [Multiaddr.parseList_eq, Multiaddr.parse_eq]
  decide +kernel

/-- **The usual settings are accepted.** -/
theorem problems_usual : usual.problems = [] := by
  refine problems_eq_nil_iff.2 ⟨?_, by decide +kernel, rfl, rfl, rfl⟩
  have hannounce : Multiaddr.parseList usual.network.announce = .ok [] := by
    rw [Multiaddr.parseList_eq]
    decide +kernel
  exact NetworkConfig.problems_eq_nil_iff.2
    ⟨⟨_, _, parseList_usualListen⟩, ⟨[], hannounce⟩, by decide⟩

/-- So are they with any other longest lifetime, if it is one. -/
theorem problems_usual_maxTtl {secs : Nat} (h : secs ≠ 0) :
    ({ usual with store := { StoreConfig.usual with maxTtlSecs := secs } } : NodeConfig).problems =
      [] := by
  obtain ⟨hnetwork, -, hemitter, hrelay, hmetrics⟩ := problems_eq_nil_iff.1 problems_usual
  have hstore : ({ StoreConfig.usual with maxTtlSecs := secs } : StoreConfig).problems = [] :=
    have hlocation : Text.allBlank StoreConfig.usual.location = false := by decide +kernel
    StoreConfig.problems_eq_nil_iff.2 ⟨hlocation, h, Nat.succ_ne_zero 29⟩
  exact problems_eq_nil_iff.2 ⟨hnetwork, hstore, hemitter, hrelay, hmetrics⟩

end NodeConfig

end Rendezvous
