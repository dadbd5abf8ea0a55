import TokenBroker.Proofs.Files.Paths
/-!
# Socket files

Which listener a socket file leads to is a number in the file.  Making directories and setting
modes, by whatever path and however far that gets, leaves every such number where it is.

* `Furnishing` is a property of trees that making a directory and setting a mode keep;
  `Furnishing.makePrivatePath` says that it is then kept by all that is done to provide a directory.
* `SameSockets` is such a property: no directory is lost, and no socket file comes, goes or leads
  elsewhere.
* `socketAt?_insert` and `socketAt?_erase` say what the other steps do to socket files.
-/

set_option autoImplicit false

namespace TokenBroker

/-- The number of the socket that a file was made for. -/
def Entry.socket? : Entry → Option Nat
  | socket _ id => some id
  | _ => none

/-- Whether a step only makes a directory or sets a mode. -/
def FileStep.furnishes : FileStep → Bool
  | makeDirectory _ => true
  | setMode _ _ => true
  | _ => false

namespace Tree

variable {t t' : Tree} {p : Place} {P : Tree → Prop}

/-! ## Providing directories -/

/-- A property that making directories and setting modes keep. -/
def Furnishing (P : Tree → Prop) : Prop :=
  ∀ {t t' : Tree} {step : FileStep}, step.furnishes = true → step.apply t = .ok t' → P t → P t'

theorem Furnishing.run (hP : Furnishing P) {steps : List FileStep}
    (hsteps : ∀ step ∈ steps, step.furnishes = true) (ht : P t) : P (t.run steps).2 := by
  induction steps generalizing t with
  | nil => exact ht
  | cons step rest ih =>
    rw [Tree.run]
    cases happly : step.apply t with
    | error errno => exact ht
    | ok t₁ =>
      exact ih (fun step hstep => hsteps step (List.mem_cons_of_mem _ hstep))
        (hP (hsteps step List.mem_cons_self) happly ht)

theorem Furnishing.runSteps (hP : Furnishing P) {step : FileStep} (hstep : step.furnishes = true)
    (ht : P t) : P (t.runSteps [step]).2 := by
  rw [runSteps_snd]
  exact hP.run (fun step' hmem => List.mem_singleton.1 hmem ▸ hstep) ht

theorem Furnishing.growing (hP : Furnishing P) : Growing P := by
  intro t t' p happly ht
  exact hP (by rfl) happly ht

theorem Furnishing.setModeAt (hP : Furnishing P) (text : String) (mode : Nat) (ht : P t) :
    P (t.setModeAt text mode).2 := by
  rw [Tree.setModeAt]
  split
  · exact ht
  · exact hP.runSteps rfl ht

/-- What is kept in making a directory and setting a mode is kept in all that provides a
directory. -/
theorem Furnishing.makePrivatePath (hP : Furnishing P) (text : String) (mode : Nat) (ht : P t) :
    P (t.makePrivatePath text mode).2 := by
  have hmade : P (t.makePath text).2 := hP.growing.makePath text ht
  rw [Tree.makePrivatePath]
  split
  · next heq => exact heq ▸ hmade
  · next t₁ heq =>
    rw [heq] at hmade
    exact hP.setModeAt (t := t₁) text mode hmade

/-! ## Where the sockets are -/

/-- The number of the socket that a file at a place was made for. -/
def socketAt? (t : Tree) (p : Place) : Option Nat := (t.find? p).bind Entry.socket?

theorem socketAt?_of_find? {mode id : Nat} (h : t.find? p = some (.socket mode id)) :
    t.socketAt? p = some id := by
  rw [socketAt?, h]
  rfl

theorem find?_of_socketAt? {id : Nat} (h : t.socketAt? p = some id) :
    ∃ mode, t.find? p = some (.socket mode id) := by
  obtain ⟨e, hfind, hsocket⟩ := Option.bind_eq_some_iff.1 h
  cases e with
  | socket mode id' => exact ⟨mode, by rw [hfind, Option.some.inj hsocket]⟩
  | file | directory => cases hsocket

theorem socketAt?_insert (t : Tree) (p : Place) (e : Entry) (q : Place) :
    (t.insert p e).socketAt? q = if q = p then e.socket? else t.socketAt? q := by
  rw [socketAt?, find?_insert, socketAt?]
  split <;> rfl

theorem socketAt?_erase (t : Tree) (p q : Place) :
    (t.erase p).socketAt? q = if q = p then none else t.socketAt? q := by
  rw [socketAt?, find?_erase, socketAt?]
  split <;> rfl

/-- A tree has grown out of another one without any change to socket files. -/
structure SameSockets (t t' : Tree) : Prop where
  evolves : Evolves t t'
  sockets : ∀ p, t'.socketAt? p = t.socketAt? p

theorem SameSockets.refl (t : Tree) : SameSockets t t := ⟨.refl t, fun _ => rfl⟩

/-- Making directories and setting modes changes no socket file. -/
theorem furnishing_sameSockets (t : Tree) : Furnishing (SameSockets t) := by
  intro t₁ t₂ step hstep happly hsame
  have hmove : t₁.movesDirectory step = false := by cases step <;> first | rfl | cases hstep
  refine ⟨hsame.evolves.trans (change_of_apply happly hmove).evolves, fun q => ?_⟩
  rw [← hsame.sockets q]
  cases effect_of_apply happly with
  | @makeDirectory p hstat hway =>
    rw [socketAt?_insert]
    split
    · next heq =>
      rw [heq, socketAt?, find?_of_stat_noEntry hstat hway]
      rfl
    · rfl
  | @setMode p mode e hstat =>
    rw [socketAt?_insert]
    split
    · next heq =>
      rw [heq, socketAt?, find?_of_stat hstat]
      cases e <;> rfl
    · rfl
  | createFile | append | sync | rename | unlink | bindSocket => cases hstep

end Tree
end TokenBroker
