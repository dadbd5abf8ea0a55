import TokenBroker.Proofs.Daemon.Answers
import TokenBroker.Proofs.Daemon.Sizes
/-!
# One daemon after another

Daemons are started on a host one after the other, each with a limit of its own, and each finds on
the disk what those before it have left there.

* A `Shift` is the time of one of them, and `Shift.leave` is what is left of the host after it.
* `hold_shifts` says that no token on the disk is larger than the largest limit so far.
* `accounted_after_shifts` says what becomes of the commands of a client that keeps reading: each
  has its response, unless it asks for a token that was stored under a larger limit than that of
  the daemon of today.  `unanswered_after_shifts` shows that such a command has none.
* `answered_after_shifts` is the case that limits only grow, in which there is no exception.
-/

set_option autoImplicit false

namespace TokenBroker
namespace Daemon

open Handler Server

/-- The time of one daemon: how it is started, what comes to it, and whether it is killed in the end
or stops by itself. -/
structure Shift where
  plan : DaemonPlan
  inputs : List (Nat × Server.Input)
  killed : Bool

/-- What is left of a host after the time of one daemon.  One that does not start leaves what was
done until then. -/
def Shift.leave (host : Host) (shift : Shift) : Host :=
  match start host shift.plan with
  | (.error _, host) => host
  | (.ok running, host) =>
    let host :=
      { host with tree := (running.server.run running.service host.tree shift.inputs).2.2 }
    if shift.killed then host.release running.listener else afterStop host running

/-- The largest limit so far. -/
def largest (older : Nat) (shifts : List Shift) : Nat :=
  shifts.foldl (fun limit shift => max limit shift.plan.maxObjectSize) older

/-! ## What is on the disk -/

variable {older limit : Nat} {host host' : Host} {plan : DaemonPlan} {running : Running Tree}

/-- A daemon keeps to the larger of its own limit and the one that the disk keeps to. -/
theorem keeps_service (hstart : start host plan = (.ok running, host'))
    (hlimit : plan.maxObjectSize ≤ limit) :
    running.service.Keeps (Tree.Hold (Record.Within limit)) := by
  obtain ⟨r, hmax, hservice, -⟩ := service_of_start hstart
  intro now key command payload t ht
  rw [hservice]
  exact Registry.hold_dispatch ht (hmax ▸ hlimit) now key command payload

theorem hold_leave (h : host.tree.Hold (Record.Within limit)) (shift : Shift)
    (hlimit : shift.plan.maxObjectSize ≤ limit) :
    (Shift.leave host shift).tree.Hold (Record.Within limit) := by
  have hempty := Record.within_nil limit
  have hstarted := hold_start h hempty shift.plan
  rw [Shift.leave]
  split
  · next heq =>
    rw [heq] at hstarted
    exact hstarted
  · next running host' heq =>
    rw [heq] at hstarted
    have hrun : (running.server.run running.service host'.tree shift.inputs).2.2.Hold
        (Record.Within limit) :=
      sound_inputs (keeps_service heq hlimit) hstarted shift.inputs running.server
    dsimp only
    split
    · exact hrun
    · exact hold_afterStop (h := { host' with tree := _ }) hrun hempty running

/-- **No token on the disk is larger than the largest limit so far.** -/
theorem hold_shifts (h : host.tree.Hold (Record.Within older)) (shifts : List Shift) :
    (shifts.foldl Shift.leave host).tree.Hold (Record.Within (largest older shifts)) := by
  induction shifts generalizing host older with
  | nil => exact h
  | cons shift rest ih =>
    exact ih (hold_leave (h.widen (Nat.le_max_left _ _)) shift (Nat.le_max_right _ _))

/-- A daemon that starts can be told by what is to be found out. -/
theorem exists_start {P : Running Tree → Host → Prop} [∀ running host, Decidable (P running host)]
    (h : (match start host plan with
      | (.ok running, host) => decide (P running host)
      | (.error _, _) => false) = true) :
    ∃ running host', start host plan = (.ok running, host') ∧ P running host' := by
  split at h
  · next running host' heq => exact ⟨running, host', heq, of_decide_eq_true h⟩
  · cases h

/-! ## What becomes of the commands -/

/-- A reply that hands out a token, which is within a limit. -/
def Handed (limit : Nat) (command : Command) (reply : Reply) : Prop :=
  command = .readAuthToken ∧ reply.result = .ok ∧ reply.payload.length ≤ limit

/-- Every reply is empty or hands out a token from the disk. -/
theorem replies_service (hstart : start host plan = (.ok running, host')) :
    running.service.Replies (Tree.Hold (Record.Within limit))
      (fun command reply => reply.payload = [] ∨ Handed limit command reply) := by
  obtain ⟨r, -, hservice, -⟩ := service_of_start hstart
  intro now key command payload t ht _
  rw [hservice]
  exact Registry.reply_of_hold ht now key command payload

/-- Of all that a client has sent to a daemon an account can be given, in which the only commands
without a response ask for a token that is too large for the daemon. -/
theorem accounted_of_hold (h : host.tree.Hold (Record.Within older))
    (hstart : start host plan = (.ok running, host')) {client : Nat}
    {before inputs : List (Nat × Input)}
    (honce : ∀ input ∈ before, input.2.connects client = false)
    (hinputs : ∀ input ∈ inputs, input.2.Allows Stays client) (now : Nat) (uid : UInt32) :
    let past := running.server.run running.service host'.tree before
    let all := (now, Input.connect client (some uid) .flowing) :: inputs
    let result := past.2.1.run running.service past.2.2 all
    Account plan.maxObjectSize (Handed older)
      (max 1 plan.maxConnections ≤ result.2.1.active.length)
      (heardFrom running.service client past.2.1 past.2.2 all) (eventsOf client result.1) := by
  intro past all result
  -- stores of this daemon may reach its own limit, but what is larger than that is older than it
  have hkeeps : running.service.Keeps
      (Tree.Hold (Record.Within (max older plan.maxObjectSize))) :=
    keeps_service hstart (Nat.le_max_right _ _)
  have hstarted : host'.tree.Hold (Record.Within (max older plan.maxObjectSize)) := by
    have hkept := hold_start (h.widen (Nat.le_max_left older plan.maxObjectSize))
      (Record.within_nil _) plan
    rw [hstart] at hkept
    exact hkept
  obtain ⟨r, -, hservice, hserver⟩ := service_of_start hstart
  have hlimit : running.service.limit = plan.maxObjectSize := by rw [hservice, Registry.service]
  have hunknown : past.2.1.Unknown client := by
    refine Unknown.run ?_ honce running.service host'.tree
    rw [hserver]
    exact unknown_iff.2 ⟨rfl, rfl⟩
  have haccount := accounted_run hkeeps (replies_service hstart) hunknown
    (sound_inputs hkeeps hstarted before running.server) hinputs now uid
  have hpermits : past.2.1.permits = max 1 plan.maxConnections := by
    rw [permits_run, hserver, ofLimit]
  rw [hlimit, hpermits] at haccount
  refine haccount.mono id fun command reply hlarge hreply => ?_
  rcases hreply with hempty | ⟨hread, hok, hwithin⟩
  · rw [hempty, List.length_nil] at hlarge
    exact absurd hlarge (Nat.not_lt_zero _)
  · exact ⟨hread, hok, by omega⟩

/-- **After any daemons, a client that keeps reading gets a response to every command, except where
it asks for a token that was stored under a larger limit.**  Then the daemon ends the connection.
It is left waiting only while all permits are in use. -/
theorem accounted_after_shifts (h : host.tree.Hold (Record.Within older)) (shifts : List Shift)
    (hstart : start (shifts.foldl Shift.leave host) plan = (.ok running, host')) {client : Nat}
    {before inputs : List (Nat × Input)}
    (honce : ∀ input ∈ before, input.2.connects client = false)
    (hinputs : ∀ input ∈ inputs, input.2.Allows Stays client) (now : Nat) (uid : UInt32) :
    let past := running.server.run running.service host'.tree before
    let all := (now, Input.connect client (some uid) .flowing) :: inputs
    let result := past.2.1.run running.service past.2.2 all
    Account plan.maxObjectSize (Handed (largest older shifts))
      (max 1 plan.maxConnections ≤ result.2.1.active.length)
      (heardFrom running.service client past.2.1 past.2.2 all) (eventsOf client result.1) :=
  accounted_of_hold (hold_shifts h shifts) hstart honce hinputs now uid

/-- A daemon that takes tokens of eight bytes, and is given one. -/
def roomy : Shift where
  plan := ⟨"r", 8, "@a", 4, none, .caller⟩
  inputs := [(1, .connect 0 (some 1000) .flowing),
    (2, .deliver 0 (.bytes
      ((⟨1, 1, 8⟩ : CommandHeader).encode ++ [65, 66, 67, 68, 49, 50, 51, 52]))),
    (3, .stop)]
  killed := false

/-- A daemon that takes no more than four bytes. -/
def narrow : DaemonPlan := ⟨"r", 4, "@a", 4, none, .caller⟩

/-- Somebody asks for the token of a user. -/
def asking : List (Nat × Input) := [(5, .deliver 0 (.bytes (⟨1, 0, 0⟩ : CommandHeader).encode))]

theorem accounted_after_roomy :
    ∃ running host', start ([roomy].foldl Shift.leave (.ofTree .empty)) narrow
        = (.ok running, host')
      ∧ let all := (4, Input.connect 0 (some 1000) .flowing) :: asking
        let result := running.server.run running.service host'.tree all
        Account 4 (Handed 8) (4 ≤ result.2.1.active.length)
          (heardFrom running.service 0 running.server host'.tree all)
          (eventsOf 0 result.1) := by
  obtain ⟨running, host', hstart, -⟩ : ∃ running host',
      start ([roomy].foldl Shift.leave (.ofTree .empty)) narrow = (.ok running, host') ∧ True :=
    exists_start (by decide +kernel)
  have hinputs : ∀ input ∈ asking, input.2.Allows Stays 0 := by
    intro input hinput
    rw [List.mem_singleton.1 hinput]
    exact fun _ _ => Arrival.noConfusion
  have hempty : (Host.ofTree .empty).tree.Hold (Record.Within 0) := Tree.hold_empty _
  exact ⟨running, host', hstart, accounted_after_shifts hempty [roomy] hstart
    (List.forall_mem_nil _) hinputs 4 1000⟩

/-- A command that asks for a token that is too large is not answered, complete though it is. -/
theorem unanswered_after_shifts :
    Complete narrow.maxObjectSize (⟨1, 0, 0⟩ : CommandHeader).encode
    ∧ ∃ running host', start ([roomy].foldl Shift.leave (.ofTree .empty)) narrow
        = (.ok running, host')
      ∧ let all := (4, Input.connect 0 (some 1000) .flowing) :: asking
        let result := running.server.run running.service host'.tree all
        (heardFrom running.service 0 running.server host'.tree all).bytes
            = (⟨1, 0, 0⟩ : CommandHeader).encode
          ∧ calls (eventsOf 0 result.1)
            = [(.readAuthToken, [], ⟨.ok, [65, 66, 67, 68, 49, 50, 51, 52]⟩)]
          ∧ written (eventsOf 0 result.1) = [] ∧ result.2.1.Unknown 0 := by
  refine ⟨⟨⟨1, 0, 0⟩, [], [], by simp, rfl, Nat.zero_le _⟩, exists_start ?_⟩
  decide +kernel

/-- **Where no daemon had a larger limit before, every command has its response.** -/
theorem answered_after_shifts (h : host.tree.Hold (Record.Within older)) (shifts : List Shift)
    (hgrown : largest older shifts ≤ plan.maxObjectSize)
    (hstart : start (shifts.foldl Shift.leave host) plan = (.ok running, host')) {client : Nat}
    {before inputs : List (Nat × Input)}
    (honce : ∀ input ∈ before, input.2.connects client = false)
    (hinputs : ∀ input ∈ inputs, input.2.Allows Stays client) (now : Nat) (uid : UInt32) :
    let past := running.server.run running.service host'.tree before
    let all := (now, Input.connect client (some uid) .flowing) :: inputs
    let result := past.2.1.run running.service past.2.2 all
    Account plan.maxObjectSize (fun _ _ => False)
      (max 1 plan.maxConnections ≤ result.2.1.active.length)
      (heardFrom running.service client past.2.1 past.2.2 all) (eventsOf client result.1) := by
  intro past all result
  have haccount := accounted_of_hold (hold_shifts h shifts) hstart honce hinputs now uid
  refine haccount.mono id fun command reply hlarge ⟨_, _, hwithin⟩ => ?_
  exact Nat.not_le.2 hlarge (Nat.le_trans hwithin hgrown)

end Daemon
end TokenBroker
