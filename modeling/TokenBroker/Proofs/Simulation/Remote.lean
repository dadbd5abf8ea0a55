import Mathlib.Data.List.Nodup
import TokenBroker.Client.Basic
import TokenBroker.Proofs.Simulation.Deployment
/-!
# A deployment as a far side

How a client of an orderly deployment writes a request and reads the response.

* `Answered.write` writes a request, in as many pieces as there is room for.
* `Answered.recvResponse` reads the response that is kept for the client then.
-/

set_option autoImplicit false

namespace TokenBroker

/-! ## Room -/

/-- An empty buffer lets in a whole chunk at least. -/
theorem Buffer.min_le_offer_empty (n : Nat) : min n Chunk.maxSize ≤ (({} : Buffer).offer n).1 := by
  have hroom : ¬ Buffer.capacity ≤ ({} : Buffer).taken := by decide
  rw [Buffer.offer, if_neg Bool.false_ne_true]
  by_cases hzero : n = 0
  · rw [hzero, Nat.zero_min]
    exact Nat.zero_le _
  · rw [Buffer.fill, dif_neg hzero, if_neg hroom]
    exact Nat.le_add_right _ _

/-- An empty buffer lets in something. -/
theorem Buffer.offer_empty_pos {n : Nat} (h : 0 < n) : 0 < (({} : Buffer).offer n).1 :=
  Nat.lt_of_lt_of_le (Nat.lt_min.2 ⟨h, by decide⟩) (Buffer.min_le_offer_empty n)

/-- There is room for so many bytes at once. -/
def Buffer.Takes (n : Nat) : Prop := n ≤ (({} : Buffer).offer n).1

theorem Buffer.offer_empty_zero : ({} : Buffer).offer 0 = (0, {}) := by
  rw [Buffer.offer, if_neg Bool.false_ne_true, Buffer.fill, dif_pos rfl]

namespace Simulation
namespace Deployment

open Handler

variable {d : Deployment} {i : Instance} {name : String} {uid : UInt32} {key : IdentityKey}
  {k : Nat} {h : Handler} {q : Request} {got rest : Bytes} {limit : Nat} {reply : Reply} {t' : Tree}
  {socket : Socket}

/-! ## Writing -/

/-- A handler with nothing unread has heard all that was sent. -/
theorem Linked.unheard (hd : d.Orderly i) (hlinked : d.Linked i name k socket h)
    (hread : h.socket.unread = []) : d.unheard k = 0 := by
  have hactive : ((i.running.server.active.filter fun item => item.1 = k).flatMap fun item =>
      item.2.socket.unread) = [] := by
    rw [List.flatMap_eq_nil_iff]
    intro item hitem
    obtain ⟨hmem, hnumber⟩ := List.mem_filter.1 hitem
    have heq : item = (k, h) :=
      List.inj_on_of_nodup_map hd.handlers hmem hlinked.handler (by simpa using hnumber)
    rw [heq, hread]
  rw [Deployment.unheard, hd.only]
  simp only [List.flatMap_cons, List.flatMap_nil, hactive, hd.settled.accepted, List.filter_nil,
    List.append_nil, List.length_nil]

/-- A handler with nothing unread hears what there is room for. -/
theorem Linked.offer (hd : d.Orderly i) (hlinked : d.Linked i name k socket h)
    (hread : h.socket.unread = []) (hrest : rest ≠ []) :
    d.offer name rest = ((({} : Buffer).offer rest.length).1,
      d.arrive k (.bytes (rest.take (({} : Buffer).offer rest.length).1))) := by
  obtain ⟨c, hfind, hnumber, -⟩ := hlinked.find?
  have hpos := Buffer.offer_empty_pos (List.length_pos_iff.2 hrest)
  simp only [Deployment.offer, hfind, hnumber, hlinked.unheard hd hread, Buffer.offer_empty_zero,
    if_neg (Nat.ne_of_gt hpos)]

/-- One offer of what is left of a request. -/
theorem Sending.offer (hsending : d.Sending i name key q got) (haccepted : q.Accepted limit)
    (hlimit : i.running.service.limit = limit) (hframe : got ++ rest = q.frame) (hrest : rest ≠ [])
    (hreply : i.running.service.dispatch d.now key q.command q.payload d.host.tree = (reply, t'))
    (hfit : reply.payload.length ≤ limit) :
    ∃ n d' i', d.offer name rest = (n, d') ∧ 0 < n
      ∧ (rest.drop n ≠ [] ∧ d'.Sending i' name key q (got ++ rest.take n)
            ∧ Step name d i d' i' d.host.tree
        ∨ rest.drop n = [] ∧ d'.Answered i' name key (answer q.id reply)
            ∧ Step name d i d' i' t') := by
  obtain ⟨hd, k, h, hlinked, hhears⟩ := hsending
  have hpos := Buffer.offer_empty_pos (List.length_pos_iff.2 hrest)
  have hoffer := hlinked.offer hd (by rw [hhears.socket]) hrest
  generalize (({} : Buffer).offer rest.length).1 = n at hpos hoffer
  have hsplit : rest.take n ++ rest.drop n = rest := List.take_append_drop n rest
  by_cases hleft : rest.drop n = []
  · have htake : rest.take n = rest := by rw [hleft, List.append_nil] at hsplit; exact hsplit
    rw [htake] at hoffer
    obtain ⟨i', hanswered, hstep⟩ := hlinked.last hd hhears haccepted hlimit hframe hreply hfit
    exact ⟨n, _, i', hoffer, hpos, .inr ⟨hleft, hanswered, hstep⟩⟩
  · have hframe' : got ++ rest.take n ++ rest.drop n = q.frame := by
      rw [List.append_assoc, hsplit, hframe]
    obtain ⟨i', hsending, hstep⟩ := hlinked.more hd hhears haccepted hlimit hframe' hleft
    exact ⟨n, _, i', hoffer, hpos, .inl ⟨hleft, hsending, hstep⟩⟩

theorem Orderly.arrivals (hd : d.Orderly i) (wanted : Nat) (name : String) (uid : UInt32) :
    (remote name uid).arrivals wanted d = d.mail name := hd.mailWithin _ name

theorem Orderly.waitUntil (hd : d.Orderly i) (wanted : Nat) (name : String) (uid : UInt32) :
    (remote name uid).waitUntil wanted d.now d = d.clearMail name := by
  show (d.advanceTo d.now).clearMail name = d.clearMail name
  rw [hd.advanceTo]

/-- A daemon that serves a client makes room at once. -/
theorem Sending.awaitRoom (hsending : d.Sending i name key q got) (uid : UInt32)
    (hgone : socket.gone = false) :
    (remote name uid).awaitRoom none socket d = (.finished (), socket, d.clearMail name) := by
  obtain ⟨hd, k, h, hlinked, -⟩ := hsending
  obtain ⟨c, hfind, hnumber, -⟩ := hlinked.find?
  have hserves : d.serves k = true := by
    rw [serves, hd.only, List.any_cons, Bool.or_eq_true, List.any_eq_true]
    exact .inl ⟨(k, h), hlinked.handler, by simp⟩
  have hroom : (remote name uid).roomAt d = some d.now := by
    show Deployment.roomAt name d = some d.now
    rw [Deployment.roomAt, hfind]
    dsimp only
    rw [hnumber, hserves, if_pos rfl]
  have hquiet : (remote name uid).arrivals 0 d = [] := by
    rw [hd.arrivals]
    exact hlinked.mail
  have hnow : (remote name uid).now d = d.now := rfl
  have hsleep : (remote name uid).sleep (d.now - d.now) socket d = (socket, d.clearMail name) := by
    rw [Remote.sleep, Remote.line, hquiet, hnow, Nat.sub_self, Remote.follow]
    simp only [Line.sleep, Line.settle, Line.settleFrom, Nat.add_zero, hd.waitUntil]
  simp only [Remote.awaitRoom, hroom, hquiet, hnow, Remote.hangUpAt?, List.find?_nil,
    Option.map_none, Line.earlier, Line.within, if_true, hsleep, hgone, Bool.false_eq_true,
    if_false]

/-- What is left of a request is written, however little room there is. -/
theorem Sending.writeRest (hsending : d.Sending i name key q got) (uid : UInt32)
    (haccepted : q.Accepted limit) (hlimit : i.running.service.limit = limit)
    (hframe : got ++ rest = q.frame) (hrest : rest ≠ []) (hgone : socket.gone = false)
    (hreply : i.running.service.dispatch d.now key q.command q.payload d.host.tree = (reply, t'))
    (hfit : reply.payload.length ≤ limit) (expected : Nat) :
    ∃ d' i', (remote name uid).writeRest none expected rest socket d = (.finished (), socket, d')
      ∧ d'.Answered i' name key (answer q.id reply) ∧ Step name d i d' i' t' := by
  induction hlen : rest.length using Nat.strongRecOn generalizing d i got rest with
  | _ n ih =>
  subst hlen
  have hroom := hsending.awaitRoom uid hgone
  obtain ⟨hd, k, h, hlinked, hhears⟩ := hsending
  obtain ⟨hd₁, hstep₁⟩ := hd.clearMail name
  have hsending₁ : (d.clearMail name).Sending i name key q got :=
    ⟨hd₁, k, h, ⟨hlinked.clearMail, hlinked.handler⟩, hhears⟩
  obtain ⟨n, d₂, i₂, hoffer, hpos, hcases⟩ :=
    hsending₁.offer haccepted hlimit hframe hrest hreply hfit
  have hoffer' : (remote name uid).offer rest (d.clearMail name) = (n, d₂) := hoffer
  rw [Remote.writeRest, dif_neg hrest, hroom]
  simp only [hoffer', dif_neg (Nat.ne_of_gt hpos)]
  rcases hcases with ⟨hleft, hsending₂, hstep₂⟩ | ⟨hdone, hanswered, hstep₂⟩
  · have hshorter : (rest.drop n).length < rest.length := by
      have := List.length_pos_iff.2 hrest
      rw [List.length_drop]
      omega
    have hframe' : got ++ rest.take n ++ rest.drop n = q.frame := by
      rw [List.append_assoc, List.take_append_drop, hframe]
    have hreply₂ : i₂.running.service.dispatch d₂.now key q.command q.payload d₂.host.tree
        = (reply, t') := by
      rw [hstep₂.service, hstep₂.now, hstep₂.tree]
      exact hreply
    obtain ⟨d', i', hwrite, hanswered, hstep'⟩ :=
      ih _ hshorter hsending₂ ((congrArg Service.limit hstep₂.service).trans hlimit) hframe' hleft
        hreply₂ rfl
    exact ⟨d', i', hwrite, hanswered, hstep₁.trans (hstep₂.trans hstep')⟩
  · rw [hdone, Remote.writeRest, dif_pos rfl]
    exact ⟨d₂, i₂, rfl, hanswered, hstep₁.trans hstep₂⟩

/-- **A request is written, and answered at once.** -/
theorem Answered.write (hanswered : d.Answered i name key []) (uid : UInt32)
    (haccepted : q.Accepted limit) (hlimit : i.running.service.limit = limit)
    (hgone : socket.gone = false)
    (hreply : i.running.service.dispatch d.now key q.command q.payload d.host.tree = (reply, t'))
    (hfit : reply.payload.length ≤ limit) :
    ∃ d' i', (remote name uid).write none q.frame socket d = (.finished (), socket, d')
      ∧ d'.Answered i' name key (answer q.id reply) ∧ Step name d i d' i' t' := by
  obtain ⟨n, d₁, i₁, hoffer, -, hcases⟩ :=
    (hanswered.sending q).offer haccepted hlimit (List.nil_append q.frame) q.frame_ne_nil hreply
      hfit
  have hoffer' : (remote name uid).offer q.frame d = (n, d₁) := hoffer
  rw [Remote.write, if_neg q.not_isEmpty_frame, if_neg (Bool.eq_false_iff.1 hgone), hoffer']
  dsimp only
  rcases hcases with ⟨hleft, hsending, hstep⟩ | ⟨hdone, hanswered', hstep⟩
  · have hframe : [] ++ q.frame.take n ++ q.frame.drop n = q.frame := by
      rw [List.nil_append, List.take_append_drop]
    have hreply₁ : i₁.running.service.dispatch d₁.now key q.command q.payload d₁.host.tree
        = (reply, t') := by
      rw [hstep.service, hstep.now, hstep.tree]
      exact hreply
    obtain ⟨d', i', hwrite, hanswered', hstep'⟩ :=
      hsending.writeRest uid haccepted ((congrArg Service.limit hstep.service).trans hlimit) hframe
        hleft hgone hreply₁ hfit q.frame.length
    exact ⟨d', i', hwrite, hanswered', hstep.trans hstep'⟩
  · rw [hdone, Remote.writeRest, dif_pos rfl]
    exact ⟨d₁, i₁, rfl, hanswered', hstep⟩

/-! ## Reading -/

end Deployment
end Simulation

/-- A socket that goes on, and on which nothing is left to read. -/
structure Socket.Quiet (s : Socket) : Prop where
  unread : s.unread = []
  ended : s.ended = false
  gone : s.gone = false
  reset : s.reset = false

theorem Line.within_now (now : Nat) (timeout : Option Nat) :
    Line.within now (Line.earlier (timeout.map (now + ·)) none) = true := by
  cases timeout with
  | none => rfl
  | some duration => exact decide_eq_true (Nat.le_add_right now duration)

/-- A read of what has arrived before. -/
theorem Line.read_of_le {s : Socket} {now n : Nat} (henough : n ≤ s.unread.length)
    (timeout : Option Nat) :
    Line.read ⟨s, now, []⟩ n timeout none
      = (.finished (s.unread.take n), ⟨{ s with unread := s.unread.drop n }, now, []⟩) := by
  rw [Line.read, Line.await, Line.awaitFrom_finished (Socket.fill_at_once henough)]
  rfl

/-- A read that waits for what arrives at once. -/
theorem Line.read_of_coming {s : Socket} (hquiet : s.Quiet) {mail : Bytes} {now n : Nat}
    (hpos : 0 < n) (henough : n ≤ mail.length) (timeout : Option Nat) (later : Schedule) :
    Line.read ⟨s, now, (now, .bytes mail) :: later⟩ n timeout none
      = (.finished (mail.take n),
          Line.settleFrom { unread := mail.drop n, noted := true } now later) := by
  obtain ⟨hunread, hended, hgone, hreset⟩ := hquiet
  have hfirst : s.fill n [] = (.waiting [], {}) := by
    rw [Socket.fill_of_lt hended hreset (by rw [hunread]; exact hpos), hunread, hended, hgone,
      hreset]
    rfl
  have hmail : mail.isEmpty = false := by
    cases mail with
    | nil => exact absurd henough (Nat.not_le.2 hpos)
    | cons byte rest => rfl
  have hreceive : Socket.receive {} (.bytes mail) = { unread := mail, noted := true } := by
    rw [Socket.receive, hmail]
    rfl
  have hsecond := Socket.fill_at_once (s := { unread := mail, noted := true }) henough
  rw [Line.read, Line.await, Line.awaitFrom_waiting hfirst (Line.within_now now timeout), hreceive,
    Line.awaitFrom_finished hsecond, Nat.max_self]
  rfl

namespace Simulation
namespace Deployment

open Handler

variable {d : Deployment} {i : Instance} {name : String} {key : IdentityKey} {socket : Socket}
  {mail : Bytes}

/-- The client takes what was kept for it. -/
theorem Answered.clearMail (hanswered : d.Answered i name key mail) :
    (d.clearMail name).Answered i name key [] ∧ Step name d i (d.clearMail name) i d.host.tree := by
  obtain ⟨hd, k, h, hlinked, hidle⟩ := hanswered
  obtain ⟨hd', hstep⟩ := hd.clearMail name
  exact ⟨⟨hd', k, h, ⟨hlinked.clearMail, hlinked.handler⟩, hidle⟩, hstep⟩

/-- The first bytes of what was kept for the client are read. -/
theorem Answered.read (hanswered : d.Answered i name key mail) (hquiet : socket.Quiet) {n : Nat}
    (hpos : 0 < n) (henough : n ≤ mail.length) (uid : UInt32) (timeout : Option Nat) :
    (remote name uid).reader timeout none n (socket, d)
      = (.finished (mail.take n), { unread := mail.drop n, noted := true }, d.clearMail name) := by
  obtain ⟨hd, k, h, hlinked, -⟩ := hanswered
  have hmail : mail ≠ [] := by
    rintro rfl
    exact absurd henough (Nat.not_le.2 hpos)
  have hline : (remote name uid).line n socket d = ⟨socket, d.now, [(d.now, .bytes mail)]⟩ := by
    rw [Remote.line, hd.arrivals, hlinked.mail_of_ne_nil hmail]
    rfl
  simp only [Remote.reader, hline, Line.read_of_coming hquiet hpos henough, Line.settleFrom,
    Remote.follow, hd.waitUntil]

/-- What has arrived is read. -/
theorem Answered.read_arrived (hanswered : d.Answered i name key []) (socket : Socket) {n : Nat}
    (henough : n ≤ socket.unread.length) (uid : UInt32) (timeout : Option Nat) :
    (remote name uid).reader timeout none n (socket, d)
      = (.finished (socket.unread.take n), { socket with unread := socket.unread.drop n },
          d.clearMail name) := by
  obtain ⟨hd, k, h, hlinked, -⟩ := hanswered
  have hline : (remote name uid).line n socket d = ⟨socket, d.now, []⟩ := by
    rw [Remote.line, hd.arrivals, hlinked.mail]
    rfl
  simp only [Remote.reader, hline, Line.read_of_le henough, Remote.follow, hd.waitUntil]

/-- **The response that is kept for a client is what it receives.** -/
theorem Answered.recvResponse {id : UInt32} {reply : Reply} {limit : Nat}
    (hanswered : d.Answered i name key (answer id reply)) (hquiet : socket.Quiet)
    (hfit : reply.payload.length ≤ limit) (hdeclared : reply.payload.length < UInt32.size)
    (uid : UInt32) (timeout : Option Nat) :
    ∃ socket' d', Frame.recvResponse ((remote name uid).reader timeout none) limit (socket, d)
        = (.finished (⟨id, reply.result.code, UInt32.ofNat reply.payload.length⟩, reply.payload),
            socket', d')
      ∧ socket'.Quiet ∧ d'.Answered i name key [] ∧ Step name d i d' i d.host.tree := by
  have hheader : (⟨id, reply.result.code, UInt32.ofNat reply.payload.length⟩
      : ResponseHeader).encode.length = Header.size := ResponseHeader.length_encode _
  have htake : (answer id reply).take Header.size = (⟨id, reply.result.code,
      UInt32.ofNat reply.payload.length⟩ : ResponseHeader).encode := by
    rw [answer, ← hheader, List.take_left]
  have hdrop : (answer id reply).drop Header.size = reply.payload := by
    rw [answer, ← hheader, List.drop_left]
  have hsize : (UInt32.ofNat reply.payload.length).toNat = reply.payload.length :=
    UInt32.toNat_ofNat_of_lt' hdeclared
  have hfirst := hanswered.read hquiet (n := Header.size) (by decide)
    (by rw [length_answer]; exact Nat.le_add_right _ _) uid timeout
  rw [htake, hdrop] at hfirst
  obtain ⟨hanswered₁, hstep₁⟩ := hanswered.clearMail
  have hreceived : Frame.recvResponseHeader ((remote name uid).reader timeout none) (socket, d)
      = (.finished ⟨id, reply.result.code, UInt32.ofNat reply.payload.length⟩,
          { unread := reply.payload, noted := true }, d.clearMail name) := by
    rw [Frame.recvResponseHeader, hfirst]
    simp only [Frame.decoded, ResponseHeader.decode?_encode]
  have hneed : Frame.payloadNeed limit (UInt32.ofNat reply.payload.length)
      = .ok reply.payload.length := by
    rw [Frame.payloadNeed, hsize, if_neg (Nat.not_lt.2 hfit)]
  rw [Frame.recvResponse, hreceived]
  simp only [Frame.recvPayload, hneed]
  cases hpayload : reply.payload with
  | nil =>
    exact ⟨_, _, rfl, ⟨rfl, rfl, rfl, rfl⟩, hanswered₁, hstep₁⟩
  | cons byte rest =>
    have hsecond := hanswered₁.read_arrived { unread := byte :: rest, noted := true }
      (Nat.le_refl (byte :: rest).length) uid timeout
    obtain ⟨hanswered₂, hstep₂⟩ := hanswered₁.clearMail
    rw [hstep₁.tree] at hstep₂
    simp only [List.take_length, List.drop_length] at hsecond
    simp only [List.length_cons] at hsecond ⊢
    rw [hsecond]
    exact ⟨_, _, rfl, ⟨rfl, rfl, rfl, rfl⟩, hanswered₂, hstep₁.trans hstep₂⟩

end Deployment
end Simulation
end TokenBroker
