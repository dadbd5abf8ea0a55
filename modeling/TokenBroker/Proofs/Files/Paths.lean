import TokenBroker.Files.Access
import TokenBroker.Proofs.Files.WellFormed
/-!
# Paths to directories

A path that leads to a directory goes on leading there, whatever is done to the tree: no step of
this library takes a directory away.

* `locate_mono` is this statement.
* `makePath_of_located` says that making a directory that is there changes nothing.
* `makePath_ok` says that a path leads to a directory once it was made one.
* `Growing.makePath` says that what is kept in making one directory is kept in making a path, and
  `makePath_grown` that nothing but new directories comes of it.
-/

set_option autoImplicit false

namespace TokenBroker
namespace Tree

variable {t t' : Tree} {p q : Place} {text : String}

/-! ## Walking on a tree with more directories -/

theorem enter_mono (hkeep : ∀ q, t.isDirectory q = true → t'.isDirectory q = true) {part : String}
    (h : t.enter p part = .ok q) : t'.enter p part = .ok q := by
  unfold enter at h ⊢
  split
  · next hdot => rwa [if_pos hdot] at h
  next hdot =>
  rw [if_neg hdot] at h
  split
  · next hdots => rwa [if_pos hdots] at h
  next hdots =>
  rw [if_neg hdots] at h
  split
  · next hlong => rwa [if_pos hlong] at h
  next hlong =>
  rw [if_neg hlong] at h
  cases hfind : t.find? (p ++ [part]) with
  | none => simp [hfind] at h
  | some e =>
    simp only [hfind] at h
    split at h
    · next hdir =>
      have hthere : t.isDirectory (p ++ [part]) = true := by
        rw [isDirectory, hfind, Option.any_some, hdir]
      obtain ⟨mode, hmode⟩ := isDirectory_eq_true_iff.1 (hkeep _ hthere)
      rw [hmode]
      exact h
    · cases h

theorem walk_mono (hkeep : ∀ q, t.isDirectory q = true → t'.isDirectory q = true) {slash : Bool}
    {parts : List String} {s : Spot} (h : t.walk slash p parts = .ok s) :
    t'.walk slash p parts = .ok s := by
  induction parts generalizing p with
  | nil => exact h
  | cons part rest ih =>
    cases rest with
    | nil => exact h
    | cons next rest =>
      rw [walk] at h ⊢
      · cases henter : t.enter p part with
        | error errno => simp [henter] at h
        | ok q =>
          rw [henter] at h
          rw [enter_mono hkeep henter]
          exact ih h
      · simp
      · simp

theorem spot_mono (hkeep : ∀ q, t.isDirectory q = true → t'.isDirectory q = true) {s : Spot}
    (h : t.spot text = .ok s) : t'.spot text = .ok s := by
  unfold spot at h ⊢
  split
  · next e hfault => simp [hfault] at h
  next hfault =>
  rw [hfault] at h
  cases hwalk : t.walk (Path.endsInSlash text) [] (Path.parts text) with
  | error errno => simp [hwalk] at h
  | ok s' =>
    rw [hwalk] at h
    rw [walk_mono hkeep hwalk]
    exact h

/-- **A path that leads to a directory leads there as long as directories stay.** -/
theorem locate_mono (hkeep : ∀ q, t.isDirectory q = true → t'.isDirectory q = true)
    (h : t.locate text = .ok p) (hp : t.isDirectory p = true) : t'.locate text = .ok p := by
  unfold locate at h ⊢
  cases hspot : t.spot text with
  | error e => simp [hspot] at h
  | ok s =>
    rw [spot_mono hkeep hspot]
    rw [hspot] at h
    cases s with
    | reached q => exact h
    | named directory name slash =>
      dsimp only at h ⊢
      cases hstat : t.stat (directory ++ [name]) with
      | error errno => simp [hstat] at h
      | ok e =>
        have hplace : directory ++ [name] = p := by
          simp only [hstat] at h
          split at h
          · cases h
          · exact Except.ok.inj h
        have hdir : e.isDirectory = true := by
          rw [← isDirectory_of_stat hstat, hplace, hp]
        obtain ⟨mode, rfl⟩ : ∃ mode, e = .directory mode := by
          cases e <;> simp_all [Entry.isDirectory]
        obtain ⟨mode', hmode'⟩ := Enterable.mono ⟨mode, hstat⟩ fun q _ => hkeep q
        simp only [hmode', Entry.isDirectory, Bool.not_true, Bool.and_false, Bool.false_eq_true,
          if_false]
        rw [hplace]

/-! ## Making directories -/

/-- Whatever stands somewhere is not made a directory again. -/
theorem makeDirectoryAt_of_located (h : t.locate text = .ok p) :
    t.makeDirectoryAt text = (.error (.os .alreadyExists), t) := by
  unfold locate at h
  rw [makeDirectoryAt, vacancy]
  cases hspot : t.spot text with
  | error e => simp [hspot] at h
  | ok s =>
    rw [hspot] at h
    cases s with
    | reached q => rfl
    | named directory name slash =>
      cases hstat : t.stat (directory ++ [name]) with
      | error errno => simp [hstat] at h
      | ok e => simp [hstat]

theorem hasDirectory_of_located (h : t.locate text = .ok p) (hp : t.Enterable p) :
    t.hasDirectory text = true := by
  obtain ⟨mode, hmode⟩ := hp
  simp [hasDirectory, statPath, h, hmode, Entry.isDirectory]

/-- Making a directory that is there changes nothing. -/
theorem makePath_of_located (h : t.locate text = .ok p) (hp : t.Enterable p) :
    t.makePath text = (.ok (), t) := by
  rw [makePath, Path.above]
  split
  · rfl
  · rw [makeFirst, makeDirectoryAt_of_located h]
    simp [hasDirectory_of_located h hp]

/-- A directory that was made is there, and everything else is as it was. -/
theorem makeDirectoryAt_cases {result : Except IoError Unit} (ht : t.WellFormed)
    (h : t.makeDirectoryAt text = (result, t')) :
    (result = .ok () ∧ Change t t' ∧ ∃ p, t'.locate text = .ok p ∧ t'.isDirectory p = true)
      ∨ (result ≠ .ok () ∧ t' = t) := by
  rw [makeDirectoryAt] at h
  cases hvacancy : t.vacancy text with
  | error e =>
    rw [hvacancy] at h
    obtain ⟨rfl, rfl⟩ := Prod.mk.inj h
    exact .inr ⟨fun hok => (by cases hok), rfl⟩
  | ok place =>
    obtain ⟨p, slash⟩ := place
    rw [hvacancy] at h
    cases hmake : (FileStep.makeDirectory p).apply t with
    | error errno =>
      simp only [runSteps, run, hmake] at h
      obtain ⟨rfl, rfl⟩ := Prod.mk.inj h
      exact .inr ⟨fun hok => (by cases hok), rfl⟩
    | ok made =>
      simp only [runSteps, run, hmake] at h
      obtain ⟨rfl, rfl⟩ := Prod.mk.inj h
      have hchange : Change t made := change_of_apply hmake rfl
      have hdir : made.isDirectory p = true := by
        cases effect_of_apply hmake
        rw [isDirectory_insert, if_pos rfl]
        rfl
      have hlocate : made.locate text = .ok p := by
        unfold vacancy at hvacancy
        cases hspot : t.spot text with
        | error e => simp [hspot] at hvacancy
        | ok s =>
          rw [hspot] at hvacancy
          cases s with
          | reached q => cases hvacancy
          | named directory name slash' =>
            have hplace : directory ++ [name] = p := by
              dsimp only at hvacancy
              split at hvacancy
              · cases hvacancy
              · exact (Prod.mk.inj (Except.ok.inj hvacancy)).1
              · cases hvacancy
            obtain ⟨mode, hmode⟩ := isDirectory_eq_true_iff.1 hdir
            have hstat := (hchange.wellFormed ht).stat_of_find? hmode
            rw [locate, spot_mono (fun _ => hchange.isDirectory) hspot]
            simp only [hplace, hstat, Entry.isDirectory, Bool.not_true, Bool.and_false,
              Bool.false_eq_true, if_false]
      exact .inl ⟨rfl, hchange, p, hlocate, hdir⟩

/-- A path leads to a directory. -/
def Leads (t : Tree) (text : String) : Prop := ∃ p, t.locate text = .ok p ∧ t.isDirectory p = true

theorem leads_of_hasDirectory (h : t.hasDirectory text = true) : t.Leads text := by
  rw [hasDirectory, statPath] at h
  cases hlocate : t.locate text with
  | error e => simp [hlocate] at h
  | ok p =>
    rw [hlocate] at h
    cases hstat : t.stat p with
    | error errno => simp [hstat] at h
    | ok e =>
      simp only [hstat] at h
      exact ⟨p, hlocate, by rw [isDirectory_of_stat hstat, h]⟩

/-- A directory that cannot be made will do if it is there. -/
theorem leads_of_settled {e : IoError}
    (h : (if e = .os .alreadyExists ∧ t.hasDirectory text then (.ok (), t) else (.error e, t))
      = ((.ok () : Except IoError Unit), t')) : t = t' ∧ t.Leads text := by
  split at h
  · next hthere => exact ⟨(Prod.mk.inj h).2, leads_of_hasDirectory hthere.2⟩
  · cases (Prod.mk.inj h).1

/-- The first of a list of directories is there when it was made with those above it. -/
theorem makeFirst_ok {paths : List String} (ht : t.WellFormed)
    (h : t.makeFirst paths = (.ok (), t')) :
    Evolves t t' ∧ ∀ path above, paths = path :: above → t'.Leads path := by
  induction paths generalizing t' with
  | nil =>
    obtain ⟨-, rfl⟩ := Prod.mk.inj h
    exact ⟨.refl t, fun path above heq => (by cases heq)⟩
  | cons path above ih =>
    suffices hpath : Evolves t t' ∧ t'.Leads path by
      refine ⟨hpath.1, fun path' above' heq => ?_⟩
      rw [← (List.cons.inj heq).1]
      exact hpath.2
    rw [makeFirst] at h
    cases hfirst : t.makeDirectoryAt path with
    | mk result made =>
      rw [hfirst] at h
      rcases makeDirectoryAt_cases ht hfirst with ⟨rfl, hchange, hthere⟩ | ⟨hfail, rfl⟩
      · obtain ⟨-, rfl⟩ := Prod.mk.inj h
        exact ⟨hchange.evolves, hthere⟩
      · cases result with
        | ok done => exact absurd rfl hfail
        | error e =>
          by_cases hmissing : e = .os .noEntry
          · subst hmissing
            dsimp only at h
            cases habove : made.makeFirst above with
            | mk result t₁ =>
              rw [habove] at h
              cases result with
              | error e => cases (Prod.mk.inj h).1
              | ok done =>
                obtain ⟨hgrown, -⟩ := ih habove
                dsimp only at h
                cases hsecond : t₁.makeDirectoryAt path with
                | mk result t₂ =>
                  rw [hsecond] at h
                  rcases makeDirectoryAt_cases (hgrown.wellFormed ht) hsecond with
                    ⟨rfl, hchange, hthere⟩ | ⟨hfail, rfl⟩
                  · obtain ⟨-, rfl⟩ := Prod.mk.inj h
                    exact ⟨hgrown.trans hchange.evolves, hthere⟩
                  · cases result with
                    | ok done => exact absurd rfl hfail
                    | error e =>
                      obtain ⟨rfl, hleads⟩ := leads_of_settled h
                      exact ⟨hgrown, hleads⟩
          · have hsettled : (if e = .os .alreadyExists ∧ made.hasDirectory path then (.ok (), made)
                else (.error e, made)) = ((.ok () : Except IoError Unit), t') := by
              cases e with
              | custom kind text => exact h
              | os errno =>
                cases errno with
                | noEntry => exact absurd rfl hmissing
                | _ => exact h
            obtain ⟨rfl, hleads⟩ := leads_of_settled hsettled
            exact ⟨.refl made, hleads⟩

/-! ## What making directories keeps -/

theorem runSteps_snd (t : Tree) (steps : List FileStep) :
    (t.runSteps steps).2 = (t.run steps).2 := by
  rw [runSteps]
  split <;> next heq => rw [heq]

/-- A property that making a directory keeps. -/
def Growing (P : Tree → Prop) : Prop :=
  ∀ ⦃t t' : Tree⦄ ⦃p : Place⦄, (FileStep.makeDirectory p).apply t = .ok t' → P t → P t'

variable {P : Tree → Prop}

theorem Growing.makeDirectoryAt (hP : Growing P) (text : String) (ht : P t) :
    P (t.makeDirectoryAt text).2 := by
  rw [Tree.makeDirectoryAt]
  split
  · exact ht
  · next p slash hvacancy =>
    rw [runSteps_snd, run]
    cases happly : (FileStep.makeDirectory p).apply t with
    | error errno => exact ht
    | ok t₁ => exact hP happly ht

theorem Growing.makeFirst (hP : Growing P) (paths : List String) (ht : P t) :
    P (t.makeFirst paths).2 := by
  induction paths generalizing t with
  | nil => exact ht
  | cons path above ih =>
    have hmade := hP.makeDirectoryAt path ht
    rw [Tree.makeFirst]
    split
    · next heq => exact heq ▸ hmade
    · have habove := ih ht
      split
      · next heq => exact heq ▸ habove
      · next t₁ heq =>
        rw [heq] at habove
        have hagain := hP.makeDirectoryAt (t := t₁) path habove
        split
        · next heq' => exact heq' ▸ hagain
        · split <;> exact habove
    · split <;> exact ht

/-- What is kept in making one directory is kept in making a path, however far that gets. -/
theorem Growing.makePath (hP : Growing P) (text : String) (ht : P t) : P (t.makePath text).2 :=
  hP.makeFirst _ ht

/-- A tree differs from another one by new directories at most. -/
def Grown (t t' : Tree) : Prop :=
  ∀ q, t'.find? q = t.find? q
    ∨ t.find? q = none ∧ t'.find? q = some (.directory defaultDirectoryMode)

theorem growing_grown (t : Tree) : Growing (Grown t) := by
  intro t₁ t₂ p happly hgrown q
  cases effect_of_apply happly with
  | makeDirectory hstat hway =>
    rw [find?_insert]
    split
    · next heq =>
      subst heq
      have hfree := find?_of_stat_noEntry hstat hway
      rcases hgrown q with hsame | ⟨hnone, -⟩
      · exact .inr ⟨hsame ▸ hfree, rfl⟩
      · exact .inr ⟨hnone, rfl⟩
    · exact hgrown q

/-- Making a path changes nothing that is there, also if it fails. -/
theorem makePath_grown (t : Tree) (text : String) : Grown t (t.makePath text).2 :=
  (growing_grown t).makePath text fun _ => .inl rfl

theorem Grown.find? (h : Grown t t') {e : Entry} (hq : t.find? q = some e) :
    t'.find? q = some e := by
  rcases h q with hsame | ⟨hnone, -⟩
  · rw [hsame, hq]
  · rw [hq] at hnone
    cases hnone

/-! ## Paths with nothing above them -/

theorem splitSlashes_cons (c : Char) (chars : List Char) :
    Path.splitSlashes (c :: chars) = match Path.splitSlashes chars with
      | [] => [[c]]
      | part :: rest => if c = '/' then [] :: part :: rest else (c :: part) :: rest := rfl

theorem splitSlashes_ne_nil (chars : List Char) : Path.splitSlashes chars ≠ [] := by
  cases chars with
  | nil => exact List.cons_ne_nil _ _
  | cons c rest =>
    rw [splitSlashes_cons]
    split
    · exact List.cons_ne_nil _ _
    · split <;> exact List.cons_ne_nil _ _

theorem pieces_of_isAbsolute (h : Path.isAbsolute text = true) :
    ∃ rest, Path.pieces text = "" :: rest := by
  rw [Path.isAbsolute, decide_eq_true_eq, List.head?_eq_some_iff] at h
  obtain ⟨chars, hchars⟩ := h
  rw [Path.pieces, hchars, splitSlashes_cons]
  cases hsplit : Path.splitSlashes chars with
  | nil => exact absurd hsplit (splitSlashes_ne_nil chars)
  | cons part rest => exact ⟨(part :: rest).map String.ofList, rfl⟩

/-- A name behind the first part makes for a second beginning of a path. -/
theorem two_le_length_heads {first part : String} {rest : List String} {n : Nat}
    (hpieces : Path.pieces text = first :: rest) (hget : rest[n]? = some part)
    (hname : part ≠ "" ∧ part ≠ ".") : 2 ≤ (Path.heads text).length := by
  have hn : n < rest.length := (List.getElem?_eq_some_iff.1 hget).1
  have hsub : List.Sublist [0, n + 1] (List.range (Path.pieces text).length) := by
    rw [hpieces, List.length_cons, List.range_succ_eq_map]
    refine .cons_cons 0 (List.singleton_sublist.2 ?_)
    exact List.mem_map.2 ⟨n, List.mem_range.2 hn, rfl⟩
  rw [Path.heads]
  refine Nat.le_trans ?_ (hsub.filterMap _).length_le
  simp [hpieces, hget, hname]

/-- A path without parent has no part with a name. -/
theorem parts_of_parent?_eq_none (h : Path.parent? text = none) (htext : text ≠ "") :
    ∀ part ∈ Path.parts text, part = "." := by
  have hfew : (Path.heads text).length ≤ 1 ∧ (text = "" ∨ Path.isAbsolute text = true) := by
    rw [Path.parent?] at h
    split at h
    · cases h
    · next hshape =>
      refine ⟨?_, by_contra fun hne => by rw [if_neg hne] at h; cases h⟩
      rw [← List.length_reverse]
      cases hrev : (Path.heads text).reverse with
      | nil => exact Nat.zero_le 1
      | cons head rest =>
        cases rest with
        | nil => exact Nat.le_refl 1
        | cons next rest => exact absurd hrev (hshape head next rest)
  obtain ⟨rest, hpieces⟩ := pieces_of_isAbsolute (hfew.2.resolve_left htext)
  intro part hpart
  rw [Path.parts, hpieces, List.mem_filter, List.mem_cons, decide_eq_true_eq] at hpart
  obtain ⟨hmem, hne⟩ := hpart
  obtain ⟨n, hget⟩ := List.mem_iff_getElem?.1 (hmem.resolve_left hne)
  by_contra hdot
  have := two_le_length_heads hpieces hget ⟨hne, hdot⟩
  omega

theorem walk_dots {slash : Bool} {parts : List String} (h : ∀ part ∈ parts, part = ".") :
    t.walk slash p parts = .ok (.reached p) := by
  induction parts with
  | nil => rfl
  | cons part rest ih =>
    obtain rfl := h part (.head _)
    cases rest with
    | nil => rfl
    | cons next rest =>
      rw [walk]
      · exact ih fun part hpart => h part (.tail _ hpart)
      · simp

/-- **A path that was made a directory leads to one, if it leads anywhere.** -/
theorem makePath_ok (ht : t.WellFormed) (h : t.makePath text = (.ok (), t')) :
    Evolves t t' ∧ (t'.locate text = .ok p → t'.isDirectory p = true) := by
  rw [makePath] at h
  obtain ⟨hgrown, hhead⟩ := makeFirst_ok ht h
  refine ⟨hgrown, fun hlocate => ?_⟩
  by_cases hparent : Path.parent? text = none
  · have htext : text ≠ "" := by
      rintro rfl
      cases hlocate
    have hspot : ∀ s, t'.spot text = .ok s → s = .reached [] := by
      intro s hs
      rw [spot, walk_dots (parts_of_parent?_eq_none hparent htext)] at hs
      split at hs
      · cases hs
      · exact (Except.ok.inj hs).symm
    rw [locate] at hlocate
    split at hlocate
    · cases hlocate
    · next q hreached =>
      cases hspot _ hreached
      rw [← Except.ok.inj hlocate]
      exact (hgrown.wellFormed ht).root
    · next hnamed => cases hspot _ hnamed
  · obtain ⟨p', hp', hdir⟩ := hhead text _ (by rw [Path.above, if_neg hparent])
    rw [hlocate] at hp'
    rw [Except.ok.inj hp', hdir]

end Tree
end TokenBroker
