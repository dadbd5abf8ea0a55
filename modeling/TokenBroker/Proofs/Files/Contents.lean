import TokenBroker.Proofs.Files.Paths
/-!
# What files hold

Most steps on a file tree put nothing new into any file: they make and move files, and take them
away.  What can be said of all files is then still true of them.

* `Tree.Hold` says something of the contents of all files of a tree.
* `Hold.run` keeps it through all steps that do not write, and `Hold.makePath` through the making of
  directories.
-/

set_option autoImplicit false

namespace TokenBroker

/-- Whether a step writes into a file. -/
def FileStep.writes : FileStep → Bool
  | append _ _ => true
  | _ => false

namespace Tree

variable {P : Bytes → Prop} {t t' : Tree} {p : Place}

/-- The content of every file has a property. -/
def Hold (P : Bytes → Prop) (t : Tree) : Prop :=
  ∀ p mode content, t.find? p = some (.file mode content) → P content

/-- There is no file in an empty tree. -/
theorem hold_empty (P : Bytes → Prop) : empty.Hold P := by
  intro p mode content hfind
  obtain ⟨item, hitem, hfile⟩ := Option.map_eq_some_iff.1 hfind
  rw [List.mem_singleton.1 (List.mem_of_find?_eq_some hitem)] at hfile
  cases hfile

theorem Hold.mono {Q : Bytes → Prop} (h : t.Hold P) (himp : ∀ content, P content → Q content) :
    t.Hold Q := fun p mode content hfind => himp content (h p mode content hfind)

theorem Hold.insert (h : t.Hold P) {e : Entry}
    (he : ∀ mode content, e = .file mode content → P content) : (t.insert p e).Hold P := by
  intro q mode content hfind
  rw [find?_insert] at hfind
  split at hfind
  · exact he mode content (Option.some.inj hfind)
  · exact h q mode content hfind

theorem Hold.erase (h : t.Hold P) (p : Place) : (t.erase p).Hold P := by
  intro q mode content hfind
  rw [find?_erase] at hfind
  split at hfind
  · cases hfind
  · exact h q mode content hfind

/-- What stands somewhere, with other permission bits, holds what it held. -/
theorem Hold.withMode (h : t.Hold P) {e : Entry} (hstat : t.stat p = .ok e) (mode : Nat) :
    ∀ mode' content, e.withMode mode = .file mode' content → P content := by
  intro mode' content heq
  cases e with
  | file old content' =>
    obtain ⟨-, rfl⟩ := Entry.file.inj heq
    exact h p old content' (find?_of_stat hstat)
  | directory old => cases heq
  | socket old id => cases heq

/-- A step that does not write puts nothing new into files; new files are empty. -/
theorem Hold.apply (h : t.Hold P) (hempty : P []) {step : FileStep}
    (hquiet : step.writes = false) (happly : step.apply t = .ok t') : t'.Hold P := by
  cases effect_of_apply happly with
  | makeDirectory | bindSocket => exact h.insert fun _ _ heq => by cases heq
  | setMode hstat => exact h.insert (h.withMode hstat _)
  | createFile =>
    refine h.insert fun _ _ heq => ?_
    obtain ⟨-, rfl⟩ := Entry.file.inj heq
    exact hempty
  | append => cases hquiet
  | sync => exact h
  | rename hstat =>
    exact (h.erase _).insert fun mode content heq => h _ mode content (heq ▸ find?_of_stat hstat)
  | unlink => exact h.erase _

/-- **Steps that do not write put nothing new into files, also if they fail.** -/
theorem Hold.run (h : t.Hold P) (hempty : P []) {steps : List FileStep}
    (hquiet : ∀ step ∈ steps, step.writes = false) : (t.run steps).2.Hold P := by
  induction steps generalizing t with
  | nil => exact h
  | cons step rest ih =>
    rw [Tree.run]
    cases happly : step.apply t with
    | error errno => exact h
    | ok t₁ =>
      exact ih (h.apply hempty (hquiet step List.mem_cons_self) happly)
        fun step hstep => hquiet step (List.mem_cons_of_mem _ hstep)

theorem Hold.runSteps (h : t.Hold P) (hempty : P []) {steps : List FileStep}
    (hquiet : ∀ step ∈ steps, step.writes = false) : (t.runSteps steps).2.Hold P := by
  rw [runSteps_snd]
  exact h.run hempty hquiet

/-- A file that is made and written to holds what was written. -/
theorem Hold.write (h : t.Hold P) (hempty : P []) (p : Place) (mode : Nat) {content : Bytes}
    (hcontent : P content) {rest : List FileStep} (hquiet : ∀ step ∈ rest, step.writes = false) :
    (t.run (.createFile p mode :: .append p content :: rest)).2.Hold P := by
  rw [Tree.run]
  cases hcreate : (FileStep.createFile p mode).apply t with
  | error errno => exact h
  | ok t₁ =>
    have hmade : t₁.find? p = some (.file mode []) := by
      cases effect_of_apply hcreate
      rw [find?_insert, if_pos rfl]
    have hhold := h.apply hempty rfl hcreate
    dsimp only
    rw [Tree.run]
    cases happend : (FileStep.append p content).apply t₁ with
    | error errno => exact hhold
    | ok t₂ =>
      refine Hold.run ?_ hempty hquiet
      cases effect_of_apply happend with
      | append hstat =>
        refine hhold.insert fun _ _ heq => ?_
        obtain ⟨-, rfl⟩ := Entry.file.inj heq
        have hfound := (find?_of_stat hstat).symm.trans hmade
        obtain ⟨-, rfl⟩ := Entry.file.inj (Option.some.inj hfound)
        exact hcontent

theorem Hold.discard (h : t.Hold P) (hempty : P []) (p : Place) : (t.discard p).Hold P := by
  rw [Tree.discard]
  split
  · next happly => exact h.apply hempty rfl happly
  · exact h

/-! ## Directories -/

theorem writes_of_mem_makeDirectories {step : FileStep} (hstep : step ∈ t.makeDirectories p) :
    step.writes = false := by
  obtain ⟨q, -, rfl⟩ := List.mem_map.1 hstep
  rfl

theorem Hold.makePath (h : t.Hold P) (hempty : P []) (text : String) : (t.makePath text).2.Hold P :=
  Growing.makePath (fun _ _ _ happly hhold => Hold.apply hhold hempty rfl happly) text h

theorem Hold.setModeAt (h : t.Hold P) (hempty : P []) (text : String) (mode : Nat) :
    (t.setModeAt text mode).2.Hold P := by
  rw [Tree.setModeAt]
  split
  · exact h
  · exact h.runSteps hempty fun step hstep => by rw [List.mem_singleton.1 hstep]; rfl

theorem Hold.makePrivatePath (h : t.Hold P) (hempty : P []) (text : String) (mode : Nat) :
    (t.makePrivatePath text mode).2.Hold P := by
  have hmade := h.makePath hempty text
  rw [Tree.makePrivatePath]
  split
  · next heq =>
    rw [heq] at hmade
    exact hmade
  · next heq =>
    rw [heq] at hmade
    exact hmade.setModeAt hempty text mode

end Tree
end TokenBroker
