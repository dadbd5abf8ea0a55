import TokenBroker.Proofs.Endpoint.Host
/-!
# Files that are read and written by path

What a path shows and whether a file can be written there, as long as nothing but files changes.

* `Shows` is a file at a path; `Shows.readPath` reads it.
* `Takes` is a path at which a file can be written.  `Takes.writePath` writes it, and
  `Takes.shows_insert` says that what was written is what the path shows then.
* `Shows.of_keeps` and `Takes.of_keeps` say what has to stay for either.
-/

set_option autoImplicit false

namespace TokenBroker
namespace Tree

variable {t t' : Tree} {text : String} {p : Place} {content : Bytes}

/-! ## Reading -/

/-- There is a file of some content at a path. -/
structure Shows (t : Tree) (text : String) (p : Place) (content : Bytes) : Prop where
  located : t.locate text = .ok p
  file : ∃ mode, t.find? p = some (.file mode content)

theorem Shows.readPath (h : t.Shows text p content) (ht : t.WellFormed) :
    t.readPath text = .ok content := by
  obtain ⟨mode, hfind⟩ := h.file
  have hstat := ht.stat_of_find? hfind
  simp only [Tree.readPath, h.located, readFile, hstat]

/-- A path shows what it showed as long as directories stay, and the file does. -/
theorem Shows.of_keeps (h : t.Shows text p content)
    (hkeep : ∀ q, t.isDirectory q = true → t'.isDirectory q = true) (ht' : t'.WellFormed)
    (hsame : t'.find? p = t.find? p) : t'.Shows text p content :=
  ⟨locate_of_find? hkeep ht' h.located hsame, hsame ▸ h.file⟩

/-! ## Writing -/

/-- A file can be written at a path: there is one, or there is nothing but a directory for it. -/
structure Takes (t : Tree) (text : String) (p : Place) : Prop where
  spot : ∃ directory name, t.spot text = .ok (.named directory name false) ∧ p = directory ++ [name]
  way : t.blocked? p = none
  file : ∀ e, t.find? p = some e → e.isFile = true

theorem Takes.not_directory (h : t.Takes text p) : t.isDirectory p = false := by
  rw [isDirectory]
  cases hfind : t.find? p with
  | none => rfl
  | some e =>
    have hfile := h.file e hfind
    cases e with
    | file mode content => rfl
    | directory | socket => cases hfile

/-- Writing at such a path puts a file there, and does nothing else. -/
theorem Takes.writePath (h : t.Takes text p) (content : Bytes) :
    ∃ mode, t.writePath text content = .ok (t.insert p (.file mode content)) := by
  obtain ⟨directory, name, hspot, rfl⟩ := h.spot
  have hover : ∃ mode, t.overwrite (directory ++ [name]) content
      = .ok (t.insert (directory ++ [name]) (.file mode content)) := by
    have hway := h.way
    cases hfind : t.find? (directory ++ [name]) with
    | none =>
      have hstat : t.stat (directory ++ [name]) = .error .noEntry := by rw [stat, hway, hfind]
      exact ⟨defaultFileMode, by rw [overwrite, hstat]; exact if_pos hway⟩
    | some e =>
      have hstat := stat_of_blocked? hway hfind
      have hfile := h.file e hfind
      cases e with
      | file mode old => exact ⟨mode, by rw [overwrite, hstat]⟩
      | directory | socket => cases hfile
  obtain ⟨mode, hover⟩ := hover
  exact ⟨mode, by simp only [Tree.writePath, hspot, Bool.false_eq_true, if_false, hover]⟩

/-- Putting a file where one can be written takes no directory away. -/
theorem Takes.isDirectory_insert (h : t.Takes text p) (mode : Nat) (content : Bytes) {q : Place}
    (hq : t.isDirectory q = true) : (t.insert p (.file mode content)).isDirectory q = true := by
  have hne : q ≠ p := by
    rintro rfl
    rw [h.not_directory] at hq
    cases hq
  rwa [Tree.isDirectory_insert, if_neg hne]

theorem Takes.wellFormed_insert (h : t.Takes text p) (ht : t.WellFormed) (mode : Nat)
    (content : Bytes) : (t.insert p (.file mode content)).WellFormed :=
  ht.insert h.way fun hdir => by
    rw [h.not_directory] at hdir
    cases hdir

/-- What was written is there. -/
theorem Takes.shows_insert (h : t.Takes text p) (ht : t.WellFormed) (mode : Nat)
    (content : Bytes) : (t.insert p (.file mode content)).Shows text p content := by
  have hfind : (t.insert p (.file mode content)).find? p = some (.file mode content) := by
    rw [find?_insert, if_pos rfl]
  have hstat := (h.wellFormed_insert ht mode content).stat_of_find? hfind
  obtain ⟨directory, name, hspot, rfl⟩ := h.spot
  refine ⟨?_, mode, hfind⟩
  rw [locate, spot_mono (fun q => h.isDirectory_insert mode content) hspot]
  dsimp only
  rw [hstat]
  rfl

/-- A file can be written as before as long as directories stay, and nothing but a file stands in
the way. -/
theorem Takes.of_keeps (h : t.Takes text p)
    (hkeep : ∀ q, t.isDirectory q = true → t'.isDirectory q = true)
    (hfile : ∀ e, t'.find? p = some e → e.isFile = true) : t'.Takes text p := by
  obtain ⟨directory, name, hspot, rfl⟩ := h.spot
  obtain ⟨hshort, habove⟩ := of_blocked?_eq_none h.way
  have hdir := (habove directory name rfl).mono fun q _ => hkeep q
  exact ⟨⟨directory, name, spot_mono hkeep hspot, rfl⟩, hdir.blocked?_concat hshort, hfile⟩

end Tree
end TokenBroker
