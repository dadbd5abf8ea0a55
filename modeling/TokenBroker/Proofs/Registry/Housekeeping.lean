import TokenBroker.Proofs.Registry.Refinement
/-!
# Steps that no entry tells of

Much of what a registry does to its tree does not show: it makes and closes directories, and it
handles temporary files.

* `Housekeeping` are the steps of this kind.
* `Hosts.housekeeping` says that a registry can still stand on the tree after one of them and has
  the same entries, and `Hosts.run` the same of any number.
-/

set_option autoImplicit false

namespace TokenBroker
namespace Registry

variable {t t' : Tree} {root : String} {place : Place}

/-- A step that makes or closes the root or the directory of a key, or concerns a temporary file. -/
inductive Housekeeping (place : Place) : FileStep → Prop where
  | closeRoot (mode : Nat) : Housekeeping place (.setMode place mode)
  | makeDirectory (key : IdentityKey) : Housekeeping place (.makeDirectory (place ++ [key.text]))
  | closeDirectory (key : IdentityKey) (mode : Nat) :
      Housekeeping place (.setMode (place ++ [key.text]) mode)
  | createFile {file : String} (name : String) (mode : Nat) : isTemporaryName file = true →
      Housekeeping place (.createFile (place ++ [name] ++ [file]) mode)
  | append {file : String} (name : String) (bytes : Bytes) : isTemporaryName file = true →
      Housekeeping place (.append (place ++ [name] ++ [file]) bytes)
  | sync (p : Place) : Housekeeping place (.sync p)
  | unlink {file : String} (name : String) : isTemporaryName file = true →
      Housekeeping place (.unlink (place ++ [name] ++ [file]))

/-- A registry can still stand on a tree in which something else than an entry was put somewhere. -/
theorem Hosts.insert (h : Hosts t root place) {p : Place} {e : Entry}
    (hchange : Tree.Change t (t.insert p e))
    (haway : ∀ key : IdentityKey, place ++ [key.text] ++ [entryName] ≠ p)
    (hkey : ∀ key : IdentityKey, place ++ [key.text] = p → e.isDirectory = true)
    (htemporary : ∀ name file, isTemporaryName file = true → place ++ [name] ++ [file] = p →
      e.isDirectory = false) :
    Hosts (t.insert p e) root place ∧ slot place (t.insert p e) = slot place t := by
  have hentry : ∀ key : IdentityKey, (t.insert p e).find? (place ++ [key.text] ++ [entryName])
      = t.find? (place ++ [key.text] ++ [entryName]) := fun key => by
    rw [Tree.find?_insert, if_neg (haway key)]
  refine ⟨{
    wellFormed := hchange.wellFormed h.wellFormed
    distinct := h.distinct.insert p e
    located := Tree.locate_mono (fun _ => hchange.isDirectory) h.located h.rooted
    rooted := hchange.isDirectory h.rooted
    keyDirectory := fun key e' he' => ?_
    entryFile := fun key e' he' => h.entryFile key e' (hentry key ▸ he')
    noTemporary := fun name file hfile => ?_ }, ?_⟩
  · rw [Tree.find?_insert] at he'
    split at he'
    · next heq => exact Option.some.inj he' ▸ hkey key heq
    · exact h.keyDirectory key e' he'
  · rw [Tree.isDirectory_insert]
    split
    · next heq => exact htemporary name file hfile heq
    · exact h.noTemporary name file hfile
  · funext key
    rw [slot, hentry, slot]

/-- What is put at the root or right below it. -/
theorem Hosts.insert_above (h : Hosts t root place) {p : Place} {e : Entry}
    (hchange : Tree.Change t (t.insert p e)) (hshort : p.length ≤ place.length + 1)
    (hdirectory : e.isDirectory = true) :
    Hosts (t.insert p e) root place ∧ slot place (t.insert p e) = slot place t := by
  have hlong : ∀ name file, place ++ [name] ++ [file] ≠ p := by
    rintro name file rfl
    simp at hshort
  exact h.insert hchange (fun key => hlong _ _) (fun _ _ => hdirectory)
    fun name file _ heq => absurd heq (hlong name file)

theorem entry_ne_temporary (place : Place) (key : IdentityKey) {name file : String}
    (hfile : isTemporaryName file = true) :
    place ++ [key.text] ++ [entryName] ≠ place ++ [name] ++ [file] :=
  (entryPlace_ne_temporary ⟨"", place, 0⟩ key hfile).symm

/-- What is put in the place of a temporary file. -/
theorem Hosts.insert_temporary (h : Hosts t root place) {name file : String} {e : Entry}
    (hfile : isTemporaryName file = true)
    (hchange : Tree.Change t (t.insert (place ++ [name] ++ [file]) e))
    (hkind : e.isDirectory = false) :
    Hosts (t.insert (place ++ [name] ++ [file]) e) root place
      ∧ slot place (t.insert (place ++ [name] ++ [file]) e) = slot place t := by
  refine h.insert hchange (fun key => entry_ne_temporary place key hfile) (fun key heq => ?_)
    fun _ _ _ _ => hkind
  have hlength := congrArg List.length heq
  simp at hlength

theorem Hosts.erase_temporary (h : Hosts t root place) {name file : String}
    (hfile : isTemporaryName file = true)
    (hchange : Tree.Change t (t.erase (place ++ [name] ++ [file]))) :
    Hosts (t.erase (place ++ [name] ++ [file])) root place
      ∧ slot place (t.erase (place ++ [name] ++ [file])) = slot place t := by
  have hentry : ∀ key : IdentityKey,
      (t.erase (place ++ [name] ++ [file])).find? (place ++ [key.text] ++ [entryName])
        = t.find? (place ++ [key.text] ++ [entryName]) := fun key => by
    rw [Tree.find?_erase, if_neg (entry_ne_temporary place key hfile)]
  refine ⟨{
    wellFormed := hchange.wellFormed h.wellFormed
    distinct := h.distinct.erase _
    located := Tree.locate_mono (fun _ => hchange.isDirectory) h.located h.rooted
    rooted := hchange.isDirectory h.rooted
    keyDirectory := fun key e he => ?_
    entryFile := fun key e he => h.entryFile key e (hentry key ▸ he)
    noTemporary := fun name' file' hfile' => ?_ }, ?_⟩
  · rw [Tree.find?_erase] at he
    split at he
    · cases he
    · exact h.keyDirectory key e he
  · rw [Tree.isDirectory_erase]
    split
    · rfl
    · exact h.noTemporary name' file' hfile'
  · funext key
    rw [slot, hentry, slot]

/-- **After such a step a registry can still stand on the tree, and has the same entries.** -/
theorem Hosts.housekeeping (h : Hosts t root place) {step : FileStep}
    (hstep : Housekeeping place step) (happly : step.apply t = .ok t') :
    Hosts t' root place ∧ slot place t' = slot place t := by
  have hmove : t.movesDirectory step = false := by cases hstep <;> rfl
  have hchange := Tree.change_of_apply happly hmove
  cases hstep with
  | closeRoot mode =>
    cases Tree.effect_of_apply happly with
    | setMode hstat =>
      refine h.insert_above hchange (Nat.le_succ _) ?_
      rw [Tree.isDirectory_withMode, ← Tree.isDirectory_of_stat hstat, h.rooted]
  | makeDirectory key =>
    cases Tree.effect_of_apply happly
    exact h.insert_above hchange (by simp) rfl
  | closeDirectory key mode =>
    cases Tree.effect_of_apply happly with
    | setMode hstat =>
      refine h.insert_above hchange (by simp) ?_
      rw [Tree.isDirectory_withMode]
      exact h.keyDirectory key _ (Tree.find?_of_stat hstat)
  | createFile name mode hfile =>
    cases Tree.effect_of_apply happly
    exact h.insert_temporary hfile hchange rfl
  | append name bytes hfile =>
    cases Tree.effect_of_apply happly
    exact h.insert_temporary hfile hchange rfl
  | sync p =>
    cases Tree.effect_of_apply happly
    exact ⟨h, rfl⟩
  | unlink name hfile =>
    cases Tree.effect_of_apply happly
    exact h.erase_temporary hfile hchange

/-- The same after any number of steps. -/
theorem Hosts.run (h : Hosts t root place) {steps : List FileStep}
    (hsteps : ∀ step ∈ steps, Housekeeping place step) :
    Hosts (t.run steps).2 root place ∧ slot place (t.run steps).2 = slot place t := by
  induction steps generalizing t with
  | nil => exact ⟨h, rfl⟩
  | cons step rest ih =>
    rw [Tree.run]
    cases happly : step.apply t with
    | error errno => exact ⟨h, rfl⟩
    | ok t₁ =>
      obtain ⟨hhosts, hslots⟩ := h.housekeeping (hsteps step List.mem_cons_self) happly
      obtain ⟨hafter, hsame⟩ :=
        ih hhosts fun step hstep => hsteps step (List.mem_cons_of_mem _ hstep)
      exact ⟨hafter, hsame.trans hslots⟩

theorem Housekeeping.partly {step : FileStep} (h : Housekeeping place step) (written : Nat) :
    ∀ part ∈ step.partly written, Housekeeping place part := by
  cases h with
  | append name bytes hfile =>
    intro part hpart
    obtain rfl := List.mem_singleton.1 hpart
    exact .append name _ hfile
  | closeRoot | makeDirectory | closeDirectory | createFile | sync | unlink =>
    exact fun _ hpart => (List.not_mem_nil hpart).elim

end Registry
end TokenBroker
