import OnPremPbx.Transition.ActiveObject
import OnPremPbx.Tunnel.SipFrame

/-!
# Stopping the task that takes the plaintext

`InnerTlsDispatchTask` (`inner_tls_task.cpp`) hands what the transport decrypts to the connector on
its own thread. Its destructor and the factory's call `stop`, which puts a stop message on the same
queue. A block of plaintext counts with its bytes, and whoever puts a block on a queue that holds
`highWater` bytes waits until it holds fewer.
-/

open Transition

namespace InnerTlsDispatchTask

inductive Job where
  /-- `MB_DATA` -/
  | bytes (payload : Bytes)
  /-- `MB_HANGUP` -/
  | disconnect
  deriving DecidableEq, Repr

/-- `make_bytes_mb`, `make_disconnect_mb` and `make_stop_mb`. -/
def blockSize : Option Job → ℕ
  | some (.bytes payload) => payload.length
  | some .disconnect      => 0
  | none                  => 0

def queued (q : List (Option Job)) : ℕ := (q.map blockSize).sum

/-- `svc` looks at the flag after a stop message as after the others. -/
def service (highWater : ℕ) : ActiveObject.Service Job where
  full q := highWater ≤ queued q
  breaks := false

/-- A call of `stop` that has begun waits for ever if it has cleared the flag, the queue is full,
and the worker leaves it full: it takes one block more if it was at the queue already, and else
none. In any other state the worker and the call come to where it returns. -/
theorem stop_returns_iff (highWater : ℕ) (hpos : 0 < highWater)
    (es : List (ActiveObject.Event Job))
    (hes : Along (ActiveObject.next (service highWater)) ActiveObject.InOrder {} es)
    (hstop : (({} : ActiveObject Job).run (service highWater) es).stopper ≠ .idle) :
    let x := ({} : ActiveObject Job).run (service highWater) es
    (∃ es', Along (ActiveObject.next (service highWater)) ActiveObject.InOrder x es' ∧
        (x.run (service highWater) es').stopper = .returned) ↔
      ¬ (x.stopper = .stored ∧ highWater ≤ queued x.queue ∧
        (x.worker = .getq → highWater ≤ queued x.queue.tail)) := by
  intro x
  have hx : x.Inv := ActiveObject.inv_init.run hes
  have hblocked : x.Blocked (service highWater) ↔ x.stopper = .stored ∧
      highWater ≤ queued x.queue ∧ (x.worker = .getq → highWater ≤ queued x.queue.tail) := by
    simp [ActiveObject.Blocked, service]
  rw [← hblocked]
  constructor
  · rintro ⟨es', hes', hreturned⟩ hwaits
    have hstored := (ActiveObject.blocked_run hwaits hx hes').1
    rw [hreturned] at hstored
    cases hstored
  · intro hfree
    have hempty : (service highWater).full [] = false := by
      simpa [service, queued, Nat.pos_iff_ne_zero] using hpos
    obtain ⟨es', hsteps, hreturned⟩ := (hx.returns_iff hempty hstop).mpr hfree
    refine ⟨es', Along.of_forall (fun e he y => ?_) x, hreturned⟩
    rcases hsteps e he with rfl | rfl <;> trivial

/-- The connector handles one block while the transport delivers two bytes more, where two are
enough, and `stop` waits for a worker that has ended. -/
theorem stop_returns_iff_full :
    let es : List (ActiveObject.Event Job) := [.start true, .dispatch (.bytes [0]), .putq 0, .svc,
      .svc, .dispatch (.bytes [1, 2]), .putq 0, .stop, .stopping, .svc, .svc]
    let x := ({} : ActiveObject Job).run (service 2) es
    x.worker = .exited ∧
      ¬ ∃ es', Along (ActiveObject.next (service 2)) ActiveObject.InOrder x es' ∧
        (x.run (service 2) es').stopper = .returned := by
  intro es x
  have hes : Along (ActiveObject.next (service 2)) ActiveObject.InOrder {} es := by decide
  refine ⟨by decide, fun h => ?_⟩
  exact (stop_returns_iff 2 (by decide) es hes (by decide)).mp h (by decide)

end InnerTlsDispatchTask
