import Mathlib.Algebra.BigOperators.Group.List.Basic
import Mathlib.Algebra.GroupWithZero.Nat
import Mathlib.Data.List.Nodup
import TokenBroker.Proofs.Daemon.Course
import TokenBroker.Proofs.Metrics.Counts
/-!
# All clients of a server

Whatever is said of the course of a connection holds of each connection of a server, from the
beginning.  What is counted over all of them is the sum of what is counted for each.

* `connecting` are the clients that connect at all.
* `Course.at_of_ofLimit` takes a course to every one of them, and `eventsOf_stranger` says that
  nothing happens to anybody else.
* `sum_countP_eventsOf` is a count of happenings, client by client.
-/

set_option autoImplicit false

namespace TokenBroker
namespace Server

open Handler

variable {σ : Type} {service : Service σ} {sound : σ → Prop} {allowed : Arrival → Prop}
  {client : Nat} {w : σ} {s : Server} {inputs : List (Nat × Input)}

/-! ## Who connects -/

/-- The client that an input connects. -/
def Input.client? : Input → Option Nat
  | .connect client _ _ => some client
  | _ => none

/-- The clients that connect, in the order in which they do. -/
def connecting (inputs : List (Nat × Input)) : List Nat := inputs.filterMap (·.2.client?)

theorem connects_of_client? {input : Input} :
    input.connects client = true ↔ input.client? = some client := by
  cases input <;> simp [Input.connects, Input.client?]

theorem connects_eq_false {inputs : List (Nat × Input)} (habsent : client ∉ connecting inputs) :
    ∀ input ∈ inputs, input.2.connects client = false := by
  intro input hinput
  rw [Bool.eq_false_iff]
  intro hconnects
  exact habsent (List.mem_filterMap.2 ⟨input, hinput, connects_of_client?.1 hconnects⟩)

/-- A client that connects does so at one place among the inputs, if clients connect only once. -/
theorem exists_split (hdistinct : (connecting inputs).Nodup) (hmem : client ∈ connecting inputs) :
    ∃ before now uid outlet after, inputs = before ++ (now, .connect client uid outlet) :: after
      ∧ client ∉ connecting before ∧ client ∉ connecting after := by
  obtain ⟨⟨now, input⟩, hinput, hclient⟩ := List.mem_filterMap.1 hmem
  obtain ⟨before, after, rfl⟩ := List.append_of_mem hinput
  cases input with
  | connect other uid outlet =>
    obtain rfl : other = client := Option.some.inj hclient
    have hall : connecting (before ++ (now, .connect other uid outlet) :: after)
        = connecting before ++ other :: connecting after := by
      simp [connecting, Input.client?]
    rw [hall, List.nodup_middle, List.nodup_cons, List.mem_append, not_or] at hdistinct
    exact ⟨before, now, uid, outlet, after, rfl, hdistinct.1⟩
  | deliver | consume | acceptFailed | tick | stop => cases hclient

/-! ## Those who do not connect -/

theorem nothing_stop (stopping : Bool) : (Heard.nothing stopping).stop = .nothing true := by
  cases stopping <;> rfl

/-- Of a client that has no connection it can be said that nothing happens to it, and that nothing
is heard of it. -/
def Course.silent (service : Service σ) : Course service (fun _ => True) (fun _ => True) where
  waiting := fun _ _ => False
  busy := fun _ _ _ => False
  resting := fun _ _ _ => False
  closed := fun past events => past = .nothing past.told.isSome ∧ events = []
  queue := fun hwaiting _ => hwaiting
  refuse := fun hwaiting _ => hwaiting.elim
  begin := fun hwaiting _ _ => hwaiting
  turnAway := fun hwaiting => hwaiting.elim
  wake := fun hresting => hresting
  hear := fun hresting _ => hresting
  makeRoom := fun _ hresting => hresting
  run := fun _ hbusy _ => hbusy.elim
  expire := fun _ hresting _ => hresting.elim
  tell := fun hresting => hresting
  conclude := fun hclosed => by
    rw [hclosed.1, nothing_stop]
    exact ⟨rfl, hclosed.2⟩

/-- A client that does not connect has no connection, and nothing happens to it. -/
theorem stranger (hunknown : s.Unknown client) (hnever : client ∉ connecting inputs)
    (service : Service σ) (w : σ) :
    let result := s.run service w inputs
    eventsOf client result.1 = []
      ∧ heardIn service client (.nothing s.stopping) s w inputs = .nothing result.2.1.stopping
      ∧ result.2.1.Unknown client := by
  obtain ⟨habsent, hnobody⟩ := unknown_iff.1 hunknown
  have hat : (Course.silent service).At (Course.silent service).resting client
      (.nothing s.stopping) [] s :=
    ⟨by cases s.stopping <;> rfl, .closed habsent hnobody ⟨by cases s.stopping <;> rfl, rfl⟩⟩
  obtain ⟨htold, hstands⟩ := hat.run
    (fun input hinput => allows_of_connects (connects_eq_false hnever input hinput))
    (fun _ _ _ _ _ _ => trivial) trivial
  rw [List.nil_append] at hstands
  cases hstands with
  | waits _ _ _ _ hwaiting => exact hwaiting.elim
  | serves _ _ hresting => exact hresting.elim
  | closed habsent hnobody hclosed =>
    exact ⟨hclosed.2, htold ▸ hclosed.1, unknown_iff.2 ⟨habsent, hnobody⟩⟩

/-! ## Those who do -/

theorem heardIn_append (service : Service σ) (client : Nat) (past : Heard)
    (first rest : List (Nat × Input)) (s : Server) (w : σ) :
    heardIn service client past s w (first ++ rest)
      = heardIn service client (heardIn service client past s w first)
        (s.run service w first).2.1 (s.run service w first).2.2 rest := by
  induction first generalizing past s w with
  | nil => rfl
  | cons input inputs ih =>
    obtain ⟨now, input⟩ := input
    simp only [List.cons_append, heardIn, Server.run, ih]

theorem unknown_ofLimit (client maxConnections : Nat) :
    (ofLimit maxConnections).Unknown client :=
  unknown_iff.2 ⟨rfl, rfl⟩

/-- What has come from a client, from the beginning on. -/
def heard (service : Service σ) (maxConnections : Nat) (w : σ) (inputs : List (Nat × Input))
    (client : Nat) : Heard :=
  heardIn service client (.nothing false) (ofLimit maxConnections) w inputs

/-- An input does nothing that is not allowed to any client. -/
def Input.Lawful (allowed : Arrival → Prop) : Input → Prop
  | .deliver _ arrival => allowed arrival
  | _ => True

/-- **Every client that connects keeps to its course.** -/
theorem Course.at_of_ofLimit {course : Course service sound allowed}
    (hwaiting : ∀ uid outlet, course.waiting (.nothing false) ⟨client, uid, {}, outlet⟩)
    (hclosed : course.closed (.nothing true) []) (hkeeps : service.Keeps sound) (hsound : sound w)
    (hlawful : ∀ input ∈ inputs, input.2.Lawful allowed)
    (hdistinct : (connecting inputs).Nodup) (hmem : client ∈ connecting inputs)
    (maxConnections : Nat) :
    let result := (ofLimit maxConnections).run service w inputs
    course.At course.resting client (heard service maxConnections w inputs client)
      (eventsOf client result.1) result.2.1 := by
  obtain ⟨before, now, uid, outlet, after, rfl, hbefore, hafter⟩ := exists_split hdistinct hmem
  obtain ⟨hquiet, hunheard, hunknown⟩ :=
    stranger (unknown_ofLimit client maxConnections) hbefore service w
  have hallows : ∀ input ∈ after, input.2.Allows allowed client := by
    intro input hinput
    have hlaw := hlawful input (List.mem_append_right _ (List.mem_cons_of_mem _ hinput))
    have honce := connects_eq_false hafter input hinput
    obtain ⟨time, input⟩ := input
    cases input with
    | connect other => exact of_decide_eq_false honce
    | deliver other arrival => exact fun _ => hlaw
    | consume | acceptFailed | tick | stop => trivial
  have hat := course.at_of_run hunknown (hwaiting uid outlet) hclosed hallows hkeeps
    (sound_inputs hkeeps hsound before (ofLimit maxConnections)) now
  have hnothing : (Heard.nothing false) = .nothing (ofLimit maxConnections).stopping := rfl
  dsimp only at hquiet hunheard ⊢
  rw [heard, heardIn_append, hnothing, hunheard, run_append]
  dsimp only
  rw [eventsOf_append, hquiet, List.nil_append]
  exact hat

/-- Nothing happens to those who do not connect. -/
theorem client_mem_connecting {happening : Happening} {maxConnections : Nat}
    (hmem : happening ∈ ((ofLimit maxConnections).run service w inputs).1) :
    happening.1 ∈ connecting inputs := by
  by_contra hnever
  have hquiet := (stranger (unknown_ofLimit happening.1 maxConnections) hnever service w).1
  have hown : happening.2 ∈ eventsOf happening.1
      ((ofLimit maxConnections).run service w inputs).1 :=
    List.mem_map_of_mem (List.mem_filter.2 ⟨hmem, by simp⟩)
  rw [hquiet] at hown
  cases hown

/-! ## Counting -/

theorem countP_eventsOf (client : Nat) (happenings : List Happening) (p : Event → Bool) :
    (eventsOf client happenings).countP p
      = happenings.countP fun happening => p happening.2 && happening.1 = client := by
  rw [eventsOf, List.countP_map, List.countP_filter]
  rfl

theorem sum_indicator (clients : List Nat) (client : Nat) :
    (clients.map fun other => if client = other then 1 else 0).sum = clients.count client := by
  induction clients with
  | nil => rfl
  | cons other rest ih =>
    rw [List.map_cons, List.sum_cons, ih, List.count_cons, Nat.add_comm]
    by_cases hown : client = other
    · simp [hown]
    · simp [hown, Ne.symm hown]

/-- What happens is counted client by client. -/
theorem sum_countP_eventsOf {clients : List Nat} (hdistinct : clients.Nodup)
    {happenings : List Happening} (hall : ∀ happening ∈ happenings, happening.1 ∈ clients)
    (p : Event → Bool) :
    (clients.map fun client => (eventsOf client happenings).countP p).sum
      = happenings.countP fun happening => p happening.2 := by
  induction happenings with
  | nil => simp [eventsOf]
  | cons happening rest ih =>
    have hrest := ih fun other hother => hall other (List.mem_cons_of_mem _ hother)
    have hone : (clients.map fun client => if happening.1 = client then 1 else 0).sum = 1 := by
      rw [sum_indicator, List.count_eq_one_of_mem hdistinct (hall happening List.mem_cons_self)]
    simp only [countP_eventsOf] at hrest
    simp only [countP_eventsOf, List.countP_cons]
    rw [List.sum_map_add, hrest]
    cases p happening.2 with
    | false => simp
    | true => simpa using hone

end Server
end TokenBroker
