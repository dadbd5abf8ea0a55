import TokenBroker.Proofs.Simulation.Remote
/-!
# A daemon that hangs up

A request that declares more than the limit of the daemon is refused as soon as its header has come,
and with that the daemon closes the connection.  What the client learns of it depends on whether the
request was on its way as a whole by then.

* `Dismissed` is a client whose connection the daemon has closed.
* `Answered.write_whole` and `Answered.write_cut` are the two ways in which the request is written;
  `Dismissed.recvResponse` is the refusal that the client reads after the first.
* `Dismissed.hangUp` is the client that closes its end as well, and `Answered.hangUp` a client that
  goes when it was answered.
-/

set_option autoImplicit false

namespace TokenBroker
namespace Simulation
namespace Deployment

open Handler

variable {d d' d'' : Deployment} {i i' i'' : Instance} {name other : String} {uid : UInt32}
  {key : IdentityKey} {k : Nat} {h : Handler} {q : Request} {socket kept : Socket} {id : UInt32}
  {reset : Bool}

/-! ## Connections that were closed -/

/-- The daemon has closed the connection of a client, for which something is kept. -/
def Dismissed (d : Deployment) (i : Instance) (name : String) (kept : Socket) : Prop :=
  d.Orderly i ∧ ∃ k, d.Parted i name k kept

/-- What is kept for a client whose request was too large. -/
def lastWords (id : UInt32) (reset : Bool) : Socket :=
  (mailbox (answer id (.status .payloadTooLarge))).receive (.hangUp reset)

/-- The daemon serves one client less, as others see it. -/
structure Loss (name : String) (d : Deployment) (i : Instance) (d' : Deployment) (i' : Instance) :
    Prop extends Keeps name d i d' i' where
  length : i'.running.server.active.length + 1 = i.running.server.active.length
  tree : d'.host.tree = d.host.tree

theorem Loss.step (h : Loss name d i d' i') (h' : Step name d' i' d'' i'' d'.host.tree) :
    Loss name d i d'' i'' :=
  ⟨h.toKeeps.trans h'.toKeeps, by rw [h'.length, h.length], h'.tree.trans h.tree⟩

/-- A client that is not served any more is not known to the daemon. -/
theorem Parted.knows (hd : d.Orderly i) (hparted : d.Parted i name k kept) : i.knows k = false := by
  rw [Instance.knows, hd.settled.accepted, List.any_nil, Bool.or_false, List.any_eq_false]
  intro item hitem
  simpa using hparted.unserved item hitem

/-- What concerns no daemon changes nothing. -/
theorem Orderly.arrive_unknown (hd : d.Orderly i) (hknows : i.knows k = false)
    (arrival : Arrival) : d.arrive k arrival = d := by
  have hfeed : d.feed (fun i => i.knows k) (.deliver k arrival)
      = d.having i d.host.tree d.clients := by
    simp only [feed, hd.only, List.foldl_cons, List.foldl_nil, hknows, Bool.false_eq_true,
      if_false, List.nil_append]
    rfl
  rw [arrive, hfeed, having, ← hd.only]

/-! ## A request that is too large -/

/-- The first piece of a request that is too large is all that the daemon hears of it. -/
theorem Answered.offer_large (hanswered : d.Answered i name key [])
    (hlarge : i.running.service.limit < q.payload.length)
    (hdeclared : q.payload.length < UInt32.size) :
    ∃ reset d' i', d.offer name q.frame = ((({} : Buffer).offer q.frame.length).1, d')
      ∧ d'.Dismissed i' name (lastWords q.id reset) ∧ Loss name d i d' i' := by
  obtain ⟨hd, k, h, hlinked, hidle⟩ := hanswered
  have hheader : Header.size ≤ (({} : Buffer).offer q.frame.length).1 := by
    refine Nat.le_trans (Nat.le_min.2 ⟨?_, by decide⟩) (Buffer.min_le_offer_empty _)
    rw [q.length_frame]
    exact Nat.le_add_right _ _
  obtain ⟨events, h', reset, hrun, harrivals, hended⟩ :=
    hidle.refuse hlarge hdeclared hheader d.now d.host.tree
  obtain ⟨i', hd', hparted, hkeeps, hlength, htree⟩ := hlinked.part hd hrun hended
  rw [harrivals] at hparted
  exact ⟨reset, _, i', hlinked.offer hd (by rw [hidle.socket]) q.frame_ne_nil,
    ⟨hd', k, hparted⟩, hkeeps, hlength, htree⟩

theorem Dismissed.mail (hdismissed : d.Dismissed i name (lastWords id reset)) :
    d.mail name
      = [(d.now, .bytes (answer id (.status .payloadTooLarge))), (d.now, .hangUp reset)] := by
  obtain ⟨-, k, hparted⟩ := hdismissed
  rw [hparted.mail_eq]
  cases hanswer : answer id (.status .payloadTooLarge) with
  | nil => exact absurd hanswer (answer_ne_nil _ _)
  | cons byte rest =>
    rw [lastWords, hanswer]
    rfl

/-- A client takes what was kept for it, and the news that the daemon has hung up. -/
theorem Dismissed.clearMail (hdismissed : d.Dismissed i name kept) :
    (d.clearMail name).Dismissed i name {}
      ∧ Step name d i (d.clearMail name) i d.host.tree := by
  obtain ⟨hd, k, hparted⟩ := hdismissed
  obtain ⟨hd', hstep⟩ := hd.clearMail name
  exact ⟨⟨hd', k, hparted.toKnown.clearMail, hparted.unserved⟩, hstep⟩

/-- A client that waits for room learns that the daemon has hung up. -/
theorem Dismissed.awaitRoom (hdismissed : d.Dismissed i name (lastWords id reset))
    (socket : Socket) (uid : UInt32) :
    ∃ socket', (remote name uid).awaitRoom none socket d
        = (.failed (.io (.os .brokenPipe)), socket', d.clearMail name) := by
  have hmail := hdismissed.mail
  obtain ⟨hd, k, hparted⟩ := hdismissed
  obtain ⟨c, hfind, hnumber, -⟩ := hparted.find?
  have hserves : d.serves k = false := by
    rw [serves, hd.only, List.any_cons, List.any_nil, Bool.or_false, List.any_eq_false]
    intro item hitem
    simpa using hparted.unserved item hitem
  have hroom : (remote name uid).roomAt d = none := by
    show Deployment.roomAt name d = none
    rw [Deployment.roomAt, hfind]
    dsimp only
    rw [hnumber, hserves, if_neg Bool.false_ne_true]
  have harrivals := (hd.arrivals 0 name uid).trans hmail
  have hnow : (remote name uid).now d = d.now := rfl
  let told := (socket.receive (.bytes (answer id (.status .payloadTooLarge)))).receive
    (.hangUp reset)
  have hsleep : (remote name uid).sleep (d.now - d.now) socket d = (told, d.clearMail name) := by
    rw [Remote.sleep, Remote.line, harrivals, hnow, Nat.sub_self, Remote.follow]
    simp only [Line.sleep, Line.settle, Line.settleFrom, Nat.add_zero, Nat.le_refl, if_true,
      hd.waitUntil, told]
  have hgone : told.gone = true := rfl
  refine ⟨told, ?_⟩
  simp only [Remote.awaitRoom, hroom, harrivals, hnow, Remote.hangUpAt?, List.find?_cons,
    Option.map_some, Line.earlier, Line.within, if_true, hsleep, hgone]

/-- **A request that is too large is written**, if there is room for all of it. -/
theorem Answered.write_whole (hanswered : d.Answered i name key [])
    (hlarge : i.running.service.limit < q.payload.length)
    (hdeclared : q.payload.length < UInt32.size) (hgone : socket.gone = false)
    (hroom : Buffer.Takes q.frame.length) (uid : UInt32) :
    ∃ reset d' i', (remote name uid).write none q.frame socket d = (.finished (), socket, d')
      ∧ d'.Dismissed i' name (lastWords q.id reset) ∧ Loss name d i d' i' := by
  obtain ⟨reset, d', i', hoffer, hdismissed, hloss⟩ := hanswered.offer_large hlarge hdeclared
  have hoffer' : (remote name uid).offer q.frame d = (_, d') := hoffer
  refine ⟨reset, d', i', ?_, hdismissed, hloss⟩
  rw [Remote.write, if_neg q.not_isEmpty_frame, if_neg (Bool.eq_false_iff.1 hgone), hoffer']
  dsimp only
  rw [List.drop_of_length_le hroom, Remote.writeRest, dif_pos rfl]

/-- **Writing a request that is too large fails**, if there is not room for all of it. -/
theorem Answered.write_cut (hanswered : d.Answered i name key [])
    (hlarge : i.running.service.limit < q.payload.length)
    (hdeclared : q.payload.length < UInt32.size) (hgone : socket.gone = false)
    (hroom : ¬ Buffer.Takes q.frame.length) (uid : UInt32) :
    ∃ socket' d' i', (remote name uid).write none q.frame socket d
        = (.failed (.io (.os .brokenPipe)), socket', d')
      ∧ d'.Dismissed i' name {} ∧ Loss name d i d' i' := by
  obtain ⟨reset, d₁, i₁, hoffer, hdismissed, hloss⟩ := hanswered.offer_large hlarge hdeclared
  have hoffer' : (remote name uid).offer q.frame d = (_, d₁) := hoffer
  have hleft : q.frame.drop (({} : Buffer).offer q.frame.length).1 ≠ [] := by
    rw [Ne, List.drop_eq_nil_iff]
    exact hroom
  obtain ⟨socket', hawait⟩ := hdismissed.awaitRoom socket uid
  obtain ⟨hdismissed', hstep⟩ := hdismissed.clearMail
  refine ⟨socket', d₁.clearMail name, i₁, ?_, hdismissed', hloss.step hstep⟩
  rw [Remote.write, if_neg q.not_isEmpty_frame, if_neg (Bool.eq_false_iff.1 hgone), hoffer']
  dsimp only
  rw [Remote.writeRest, dif_neg hleft, hawait]

/-- **A client reads that its request was too large**, and that the daemon has hung up. -/
theorem Dismissed.recvResponse (hdismissed : d.Dismissed i name (lastWords id reset))
    (hquiet : socket.Quiet) (limit : Nat) (uid : UInt32) (timeout : Option Nat) :
    ∃ socket' d', Frame.recvResponse ((remote name uid).reader timeout none) limit (socket, d)
        = (.finished (⟨id, ResultCode.payloadTooLarge.code, 0⟩, []), socket', d')
      ∧ socket'.gone = true ∧ d'.Dismissed i name {} ∧ Step name d i d' i d.host.tree := by
  have hsize : (answer id (.status .payloadTooLarge)).length = Header.size := length_answer _ _
  have hencode : (answer id (.status .payloadTooLarge)).take Header.size
      = (⟨id, ResultCode.payloadTooLarge.code, 0⟩ : ResponseHeader).encode := by
    rw [List.take_of_length_le (Nat.le_of_eq hsize), answer]
    exact List.append_nil _
  have hline : (remote name uid).line Header.size socket d
      = ⟨socket, d.now,
          (d.now, .bytes (answer id (.status .payloadTooLarge))) :: [(d.now, .hangUp reset)]⟩ := by
    rw [Remote.line, hdismissed.1.arrivals, hdismissed.mail]
    rfl
  let told := ({ noted := true } : Socket).receive (.hangUp reset)
  have hread : (remote name uid).reader timeout none Header.size (socket, d)
      = (.finished (⟨id, ResultCode.payloadTooLarge.code, 0⟩ : ResponseHeader).encode, told,
          d.clearMail name) := by
    have hdrop : (answer id (.status .payloadTooLarge)).drop Header.size = [] :=
      List.drop_of_length_le (Nat.le_of_eq hsize)
    simp only [Remote.reader, hline,
      Line.read_of_coming hquiet (by decide : 0 < Header.size) (Nat.le_of_eq hsize.symm), hencode,
      hdrop, Line.settleFrom, Nat.le_refl, if_true, Remote.follow, hdismissed.1.waitUntil, told]
  obtain ⟨hdismissed', hstep⟩ := hdismissed.clearMail
  refine ⟨told, d.clearMail name, ?_, rfl, hdismissed', hstep⟩
  rw [Frame.recvResponse, Frame.recvResponseHeader, hread]
  simp only [Frame.decoded, ResponseHeader.decode?_encode]
  rfl

/-! ## Closing the other end -/

/-- Nobody else is touched when a client goes. -/
theorem Known.of_dropped (hknown : d.Known other k socket) (hne : other ≠ name)
    (hclients : d'.clients = d.clients.filter fun c => c.name ≠ name) :
    d'.Known other k socket where
  present := by
    obtain ⟨c, hc, hname⟩ := hknown.present
    refine ⟨c, ?_, hname⟩
    rw [hclients, List.mem_filter]
    exact ⟨hc, by simpa [hname] using hne⟩
  mine := fun c hc hname => by
    rw [hclients] at hc
    exact hknown.mine c (List.mem_of_mem_filter hc) hname
  others := fun c hc hname => by
    rw [hclients] at hc
    exact hknown.others c (List.mem_of_mem_filter hc) hname

/-- The deployment without a client. -/
def without (d : Deployment) (name : String) : Deployment :=
  { d with clients := d.clients.filter fun other => other.name ≠ name }

theorem Orderly.without (hd : d.Orderly i) (name : String) :
    (d.without name).Orderly i ∧ (∀ c ∈ (d.without name).clients, c.name ≠ name)
      ∧ Step name d i (d.without name) i d.host.tree := by
  refine ⟨⟨hd.only, hd.patient, hd.settled, hd.handlers, hd.served,
    fun c hc => hd.numbered c (List.mem_of_mem_filter hc)⟩,
    fun c hc => by simpa using (List.mem_filter.1 hc).2, ⟨?_, rfl, rfl⟩⟩
  exact {
    service := rfl
    listener := rfl
    permits := rfl
    now := rfl
    names := rfl
    listeners := rfl
    others := fun other k₂ socket₂ h₂ hne hother =>
      ⟨hother.toKnown.of_dropped hne rfl, hother.handler⟩
    parted := fun other k₂ socket₂ hne hother =>
      ⟨hother.toKnown.of_dropped hne rfl, hother.unserved⟩
    strangers := fun other _ hunknown c hc => hunknown c (List.mem_of_mem_filter hc) }

/-- **A client that the daemon has dismissed closes its end.** -/
theorem Dismissed.hangUp (hdismissed : d.Dismissed i name kept) (arrival : Arrival) :
    (d.hangUp name arrival).Orderly i ∧ (∀ c ∈ (d.hangUp name arrival).clients, c.name ≠ name)
      ∧ Step name d i (d.hangUp name arrival) i d.host.tree := by
  obtain ⟨hd, k, hparted⟩ := hdismissed
  obtain ⟨c, hfind, hnumber, -⟩ := hparted.find?
  have heq : d.hangUp name arrival = d.without name := by
    rw [Deployment.hangUp, hfind]
    dsimp only
    rw [hnumber, hd.arrive_unknown (hparted.knows hd)]
    rfl
  rw [heq]
  exact hd.without name

/-- **A client that was answered closes its end**, and the daemon serves one client less. -/
theorem Answered.hangUp (hanswered : d.Answered i name key []) (reset : Bool) :
    ∃ i', (d.hangUp name (.hangUp reset)).Orderly i'
      ∧ (∀ c ∈ (d.hangUp name (.hangUp reset)).clients, c.name ≠ name)
      ∧ Loss name d i (d.hangUp name (.hangUp reset)) i' := by
  obtain ⟨hd, k, h, hlinked, hidle⟩ := hanswered
  obtain ⟨c, hfind, hnumber, hsocket⟩ := hlinked.find?
  obtain ⟨events, h', hrun, hended⟩ :=
    hidle.leave reset i.running.service d.now d.host.tree
  obtain ⟨i', hd', -, hkeeps, hlength, htree⟩ := hlinked.part hd hrun hended
  have heq : d.hangUp name (.hangUp reset) = (d.arrive k (.hangUp reset)).without name := by
    rw [Deployment.hangUp, hfind]
    dsimp only
    rw [hnumber, hsocket]
    rfl
  obtain ⟨hd'', hunknown, hstep⟩ := hd'.without name
  rw [heq]
  exact ⟨i', hd'', hunknown, Loss.step ⟨hkeeps, hlength, htree⟩ hstep⟩

end Deployment
end Simulation
end TokenBroker
