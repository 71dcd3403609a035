import OnPremPbx.Agent.Outbound
import OnPremPbx.Cloud.Outbound

/-!
# Neither end loses, doubles or reorders a frame

Both ends of the tunnel keep the frames they could not send for the next connection. The results
of the two ends are brought together here.
-/

open Framing SipFrame

/-- Every frame passed to `send_frame` was written, or waits in the queue, in the order in which
the frames were passed. -/
def Lossless (writes : List (Write ConnId Frame)) (outbound : List Frame)
    (passed : List Frame) : Prop :=
  (acceptedOf writes).map Frame.encode ++ outbound.map Frame.encode = passed.map Frame.encode

lemma Framing.Outbound.Wf.lossless {o : Outbound ConnId Frame} (ho : o.Wf) :
    Lossless o.writes o.queue (kept o.passed) := by
  rw [Lossless, ← List.map_append, ho.accepted_append_queue]

lemma Framing.Outbound.Wf.lossless_of_unbounded {o : Outbound ConnId Frame} (ho : o.Wf)
    (hcap : o.cap = 0) : Lossless o.writes o.queue (o.passed.map (·.1)) := by
  have hkept : kept o.passed = o.passed.map (·.1) := by
    rw [kept, List.filter_eq_self.mpr (ho.kept_of_unbounded hcap)]
  rw [← hkept]
  exact ho.lossless
