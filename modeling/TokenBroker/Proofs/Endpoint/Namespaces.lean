import Mathlib.Data.List.Nodup
import TokenBroker.Proofs.Endpoint.Holding
/-!
# Names and paths

There are two places where a listener can be reached, a namespace and the file tree, and the first
character of a text decides between them.

* `Endpoint.of_parse` says what a text stands for, and `Endpoint.parse_display` that nothing is lost
  when it is shown.
* `Deed` is what somebody does at an endpoint of either kind.  `Named` says that the names and the
  socket files lead to different listeners, and `Named.performAll` that this stays so.
* `KeepsToName`, `KeepsToFiles` and `ConnectsToFile` say that an endpoint is used in one namespace
  only; `keepsToName`, `keepsToFiles` and `connectsToFile` say of which endpoints that is true.
* `namespaces_kept` puts this together.  A path that starts with a zero byte is the exception: for
  somebody who connects, and for nobody else, it is a name.  `name_reached_by_path` is such a path.
-/

set_option autoImplicit false

namespace TokenBroker

/-! ## Texts -/

namespace Endpoint

variable {text : String} {endpoint : Endpoint}

/-- The first character of a text decides what it stands for. -/
theorem of_parse (hparse : parse text = .ok endpoint) :
    ∃ c rest, text.toList = c :: rest
      ∧ ((c = '#' ∨ c = '@') → rest ≠ [] ∧ endpoint = .name (String.ofList rest))
      ∧ (¬ (c = '#' ∨ c = '@') → endpoint = .path text) := by
  rw [parse] at hparse
  cases htext : text.toList with
  | nil => simp [htext, ofChars] at hparse
  | cons c rest =>
    refine ⟨c, rest, rfl, fun hmark => ?_, fun hmark => ?_⟩
    · rw [htext, ofChars, if_pos hmark] at hparse
      split at hparse
      · cases hparse
      · next hrest => exact ⟨fun hnil => hrest (hnil ▸ rfl), (Except.ok.inj hparse).symm⟩
    · rw [htext, ofChars, if_neg hmark, ← htext, String.ofList_toList] at hparse
      exact (Except.ok.inj hparse).symm

/-- An endpoint that is shown as a text is read back. -/
theorem parse_display (hparse : parse text = .ok endpoint) :
    parse endpoint.display = .ok endpoint := by
  obtain ⟨c, rest, -, hname, hpath⟩ := of_parse hparse
  by_cases hmark : c = '#' ∨ c = '@'
  · obtain ⟨hrest, rfl⟩ := hname hmark
    rw [display, parse, String.toList_ofList, String.toList_ofList, ofChars, if_pos (.inl rfl),
      if_neg (mt List.isEmpty_iff.1 hrest)]
  · rw [hpath hmark] at hparse ⊢
    exact hparse

end Endpoint

namespace Host

variable {h h' : Host} {t : Tree} {text : String} {endpoint : Endpoint} {name : Bytes}
  {c : Char} {rest : List Char}

/-! ## Addresses -/

theorem textBytes_inj {a b : String} (hbytes : textBytes a = textBytes b) : a = b := by
  rw [textBytes_eq, textBytes_eq] at hbytes
  rw [← String.toByteArray_inj, ← String.utf8Encode_toList, ← String.utf8Encode_toList,
    List.utf8Encode, List.utf8Encode, hbytes]

/-- Whoever connects takes a path that starts with a zero byte for the name behind it. -/
theorem pathAddress_nul (htext : text.toList = '\x00' :: rest) :
    pathAddress text = (nameAddress (textBytes (String.ofList rest))).map some := by
  have hbytes : textBytes text = 0 :: textBytes (String.ofList rest) := by
    rw [textBytes_eq, textBytes_eq, htext, String.toList_ofList, List.flatMap_cons]
    rfl
  rw [pathAddress]
  split
  · next name hname =>
    obtain rfl := (List.cons.inj (hname.symm.trans hbytes)).2
    split <;> next haddress => rw [haddress]; rfl
  · next hother => exact absurd hbytes (hother _)

/-- No other path is a name. -/
theorem pathAddress_ne_some (htext : text.toList = c :: rest) (hc : c ≠ '\x00') (name : Bytes) :
    pathAddress text ≠ .ok (some name) := by
  intro haddress
  rw [pathAddress] at haddress
  split at haddress
  · next hbytes =>
    rw [textBytes_eq, htext, List.flatMap_cons] at hbytes
    exact hc (eq_nul_of_utf8EncodeChar ⟨_, hbytes⟩)
  · split at haddress
    · cases haddress
    · split at haddress <;> cases haddress

/-! ## Listeners with names -/

/-- Each listener with a name has one, and no socket file; each name is that of one listener, and
fits into an address. -/
structure Named (h : Host) : Prop where
  sound : h.Sound
  fits : ∀ held ∈ h.names, nameAddress held.1 = .ok held.1
  once : (h.names.map Prod.fst).Nodup
  single : (h.names.map Prod.snd).Nodup
  numbers : ∀ held ∈ h.names, held.2 < h.nextListener
  apart : ∀ held ∈ h.names, ∀ p, h.tree.socketAt? p ≠ some held.2

theorem named_ofTree (ht : t.WellFormed) (hsockets : ∀ p, t.socketAt? p = none) :
    (ofTree t).Named where
  sound := sound_ofTree ht hsockets
  fits := fun _ hmem => by cases hmem
  once := List.nodup_nil
  single := List.nodup_nil
  numbers := fun _ hmem => by cases hmem
  apart := fun _ hmem => by cases hmem

/-- Whoever connects to a name gets to the listener that has it. -/
theorem Named.connectName?_iff (hnamed : h.Named) (name : Bytes) (id : Nat) :
    h.connectName? name = .ok id ↔ (name, id) ∈ h.names := by
  rw [connectName?]
  cases hfind : h.names.find? fun held => held.1 = name with
  | none =>
    refine iff_of_false (fun h => by cases h) fun hmem => ?_
    exact List.find?_eq_none.1 hfind _ hmem (by simp)
  | some held =>
    obtain ⟨name', id'⟩ := held
    have hheld := List.mem_of_find?_eq_some hfind
    obtain rfl : name' = name := by simpa using List.find?_some hfind
    refine ⟨fun hid => Except.ok.inj hid ▸ hheld, fun hmem => ?_⟩
    exact congrArg (fun held => Except.ok held.2)
      (List.inj_on_of_nodup_map hnamed.once hheld hmem rfl)

theorem nameAddress_cases (name : Bytes) :
    (∃ e, nameAddress name = .error e) ∨ nameAddress name = .ok name := by
  rw [nameAddress]
  split
  · exact .inl ⟨_, rfl⟩
  · exact .inr rfl

theorem Named.connect?_name (hnamed : h.Named) (text : String) (id : Nat) :
    h.connect? (.name text) = .ok id ↔ (textBytes text, id) ∈ h.names := by
  rw [connect?]
  rcases nameAddress_cases (textBytes text) with ⟨e, haddress⟩ | haddress
  · rw [haddress]
    refine iff_of_false (fun h => by cases h) fun hmem => ?_
    cases (hnamed.fits _ hmem).symm.trans haddress
  · rw [haddress]
    exact hnamed.connectName?_iff _ id

/-- Taking a name fails and changes nothing, or it gives a free name to the next listener. -/
theorem bindName_cases (h : Host) (name : Bytes) :
    (∃ e, h.bindName name = (.error e, h))
      ∨ nameAddress name = .ok name ∧ name ∉ h.names.map Prod.fst
        ∧ h.bindName name
          = (.ok h.nextListener,
            { h.addListener with names := h.names ++ [(name, h.nextListener)] }) := by
  rw [bindName]
  rcases nameAddress_cases name with ⟨e, haddress⟩ | haddress
  · rw [haddress]
    exact .inl ⟨e, rfl⟩
  · rw [haddress]
    dsimp only
    split
    · exact .inl ⟨_, rfl⟩
    · next hfree => exact .inr ⟨rfl, by simpa using hfree, rfl⟩

theorem Named.bindName (hnamed : h.Named) (name : Bytes) : (h.bindName name).2.Named := by
  have hsound := hnamed.sound.after (outcome_bindName h "" name)
  obtain ⟨e, hbind⟩ | ⟨hfits, hfree, hbind⟩ := bindName_cases h name
  · rw [hbind]
    exact hnamed
  · rw [hbind] at hsound ⊢
    have hnew : h.nextListener ∉ h.names.map Prod.snd := fun hmem => by
      obtain ⟨held, hheld, heq⟩ := List.mem_map.1 hmem
      exact absurd (hnamed.numbers held hheld) (by rw [heq]; exact Nat.lt_irrefl _)
    have hmem : ∀ held, held ∈ h.names ++ [(name, h.nextListener)]
        ↔ held ∈ h.names ∨ held = (name, h.nextListener) := fun held => by
      rw [List.mem_append, List.mem_singleton]
    exact {
      sound := hsound
      fits := fun held hheld => ((hmem held).1 hheld).elim (hnamed.fits held) (· ▸ hfits)
      once := by
        rw [List.map_append, List.map_singleton, ← List.concat_eq_append]
        exact hnamed.once.concat hfree
      single := by
        rw [List.map_append, List.map_singleton, ← List.concat_eq_append]
        exact hnamed.single.concat hnew
      numbers := fun held hheld => ((hmem held).1 hheld).elim
        (fun hold => Nat.lt_succ_of_lt (hnamed.numbers held hold))
        (fun hnow => by
          subst hnow
          exact Nat.lt_succ_self _)
      apart := fun held hheld p hsocket => ((hmem held).1 hheld).elim
        (fun hold => hnamed.apart held hold p hsocket)
        (fun hnow => by
          subst hnow
          exact Nat.lt_irrefl _ (hnamed.sound.sockets p _ hsocket)) }

theorem Named.release (hnamed : h.Named) (id : Nat) : (h.release id).Named where
  sound := hnamed.sound.undergo (.drop id)
  fits held hheld := hnamed.fits held (List.mem_filter.1 hheld).1
  once := hnamed.once.sublist (List.filter_sublist.map _)
  single := hnamed.single.sublist (List.filter_sublist.map _)
  numbers held hheld := hnamed.numbers held (List.mem_filter.1 hheld).1
  apart held hheld := hnamed.apart held (List.mem_filter.1 hheld).1

/-- What makes at most a socket file for the next listener keeps names and socket files apart. -/
theorem Named.after {act : Act} {target made : Option Place} (hnamed : h.Named)
    (houtcome : Outcome h act target made h') (hnames : h'.names = h.names) : h'.Named where
  sound := hnamed.sound.after houtcome
  fits := hnames ▸ hnamed.fits
  once := hnames ▸ hnamed.once
  single := hnames ▸ hnamed.single
  numbers held hheld := Nat.lt_of_lt_of_le (hnamed.numbers held (hnames ▸ hheld)) houtcome.numbered
  apart held hheld p hsocket := by
    rw [hnames] at hheld
    rw [houtcome.sockets p] at hsocket
    split at hsocket
    · exact Nat.ne_of_gt (hnamed.numbers held hheld) (Option.some.inj hsocket)
    · split at hsocket
      · cases hsocket
      · exact hnamed.apart held hheld p hsocket

/-! ## Paths and the names in use -/

/-- The host with other names in use. -/
def withNames (h : Host) (names : List (Bytes × Nat)) : Host := { h with names := names }

theorem bindFile_withNames (hhidden : ∀ name, pathAddress text ≠ .ok (some name))
    (names : List (Bytes × Nat)) :
    (h.withNames names).bindFile text
      = ((h.bindFile text).1, (h.bindFile text).2.withNames names) := by
  rw [bindFile, bindFile]
  cases haddress : pathAddress text with
  | error e => rfl
  | ok address =>
    cases address with
    | some name => exact absurd haddress (hhidden name)
    | none =>
      dsimp only [withNames]
      split <;> rfl

/-- Listening on a path does the same whatever names are in use, and leaves them. -/
theorem bind_withNames (h : Host) (text : String) (names : List (Bytes × Nat)) :
    (h.withNames names).bind (.path text)
      = ((h.bind (.path text)).1, (h.bind (.path text)).2.withNames names) := by
  have hcommute : ∀ t, ({ h with tree := t } : Host).withNames names
      = { h.withNames names with tree := t } := fun _ => rfl
  rw [bind, bindPath, bind, bindPath, show (h.withNames names).tree = h.tree from rfl]
  cases provideParent h.tree text with
  | mk provided t₁ =>
    cases provided with
    | error e => rfl
    | ok done =>
      dsimp only
      cases hremove : removeStaleSocket t₁ text with
      | mk removed t₂ =>
        cases removed with
        | error e => rfl
        | ok done =>
          refine bindFile_withNames (h := { h with tree := t₂ }) (fun name haddress => ?_) names
          exact removeStaleSocket_hidden haddress t₁ (by rw [hremove])

theorem names_bind_path (h : Host) (text : String) : (h.bind (.path text)).2.names = h.names :=
  congrArg (fun result => result.2.names) (bind_withNames h text h.names)

/-! ## What is done at endpoints -/

/-- What somebody does who listens, or did, at an endpoint. -/
inductive Deed where
  | bind (endpoint : Endpoint)
  /-- A listener is dropped by its holder. -/
  | drop (listener : Nat)
  | cleanup (endpoint : Endpoint)

/-- The host after a deed. -/
def perform (h : Host) : Deed → Host
  | .bind endpoint => (h.bind endpoint).2
  | .drop listener => h.release listener
  | .cleanup endpoint => h.cleanup endpoint

/-- The host after some deeds. -/
def performAll (h : Host) (deeds : List Deed) : Host := deeds.foldl perform h

theorem Named.perform (hnamed : h.Named) (deed : Deed) : (h.perform deed).Named := by
  cases deed with
  | bind endpoint =>
    cases endpoint with
    | name text => exact hnamed.bindName (textBytes text)
    | path text =>
      obtain ⟨made, houtcome⟩ := outcome_bind hnamed.sound.tree text
      exact hnamed.after houtcome (names_bind_path h text)
  | drop listener => exact hnamed.release listener
  | cleanup endpoint =>
    cases endpoint with
    | name text => exact hnamed
    | path text => exact hnamed.after (outcome_cleanup hnamed.sound.tree text) rfl

theorem Named.performAll (hnamed : h.Named) (deeds : List Deed) : (h.performAll deeds).Named := by
  induction deeds generalizing h with
  | nil => exact hnamed
  | cons deed rest ih => exact ih (hnamed.perform deed)

/-! ## What keeps to one namespace -/

/-- An endpoint is a name: binding does and answers the same whatever is in the file tree and leaves
it, and gives that name to a listener or does nothing; cleaning up does nothing; and whoever
connects gets to the listener that has the name. -/
structure KeepsToName (h : Host) (endpoint : Endpoint) (name : Bytes) : Prop where
  bind : ∀ t, ({ h with tree := t } : Host).bind endpoint
    = ((h.bind endpoint).1, { (h.bind endpoint).2 with tree := t })
  bound : ∀ id, (h.bind endpoint).1 = .ok id → (h.bind endpoint).2.names = h.names ++ [(name, id)]
  unbound : ∀ e, (h.bind endpoint).1 = .error e → (h.bind endpoint).2 = h
  cleanup : h.cleanup endpoint = h
  connect : ∀ id, h.connect? endpoint = .ok id ↔ (name, id) ∈ h.names

/-- A path is used in the file tree by whoever binds or cleans up: that does and answers the same
whatever names are in use, and leaves them. -/
structure KeepsToFiles (h : Host) (text : String) : Prop where
  bind : ∀ names, (h.withNames names).bind (.path text)
    = ((h.bind (.path text)).1, (h.bind (.path text)).2.withNames names)
  cleanup : ∀ names, (h.withNames names).cleanup (.path text)
    = (h.cleanup (.path text)).withNames names

/-- A path is used in the file tree by whoever connects: the answer is the same whatever names are
in use, and is a listener that has its socket file there and no name. -/
structure ConnectsToFile (h : Host) (text : String) : Prop where
  connect : ∀ names, (h.withNames names).connect? (.path text) = h.connect? (.path text)
  reached : ∀ id, h.connect? (.path text) = .ok id →
    (∃ p, h.tree.locate text = .ok p ∧ h.tree.socketAt? p = some id)
      ∧ ∀ held ∈ h.names, held.2 ≠ id

theorem Named.keepsToName (hnamed : h.Named) (text : String) :
    h.KeepsToName (.name text) (textBytes text) where
  bind t := by
    rw [Host.bind, Host.bind, Host.bindName, Host.bindName]
    split
    · rfl
    · dsimp only
      split <;> rfl
  bound id hid := by
    rw [Host.bind] at hid ⊢
    obtain ⟨e, hbind⟩ | ⟨-, -, hbind⟩ := bindName_cases h (textBytes text)
    · rw [hbind] at hid
      cases hid
    · rw [hbind] at hid ⊢
      rw [← Except.ok.inj hid]
  unbound e he := by
    rw [Host.bind] at he ⊢
    obtain ⟨e', hbind⟩ | ⟨-, -, hbind⟩ := bindName_cases h (textBytes text)
    · rw [hbind]
    · rw [hbind] at he
      cases he
  cleanup := rfl
  connect := hnamed.connect?_name text

theorem keepsToFiles (h : Host) (text : String) : h.KeepsToFiles text where
  bind := bind_withNames h text
  cleanup _ := rfl

/-- Whoever is led to a listener by a path in the file tree has found its socket file. -/
theorem of_connect?_path {id : Nat} (hhidden : ∀ name, pathAddress text ≠ .ok (some name))
    (hconnect : h.connect? (.path text) = .ok id) :
    ∃ p, h.tree.locate text = .ok p ∧ h.tree.socketAt? p = some id := by
  rw [connect?] at hconnect
  cases haddress : pathAddress text with
  | error e => simp [haddress] at hconnect
  | ok address =>
    cases address with
    | some name => exact absurd haddress (hhidden name)
    | none =>
      rw [haddress] at hconnect
      dsimp only at hconnect
      rw [Tree.statPath] at hconnect
      cases hlocate : h.tree.locate text with
      | error e => simp [hlocate] at hconnect
      | ok p =>
        refine ⟨p, rfl, ?_⟩
        simp only [hlocate] at hconnect
        cases hstat : h.tree.stat p with
        | error errno => simp [hstat] at hconnect
        | ok e =>
          cases e with
          | file | directory => simp [hstat] at hconnect
          | socket mode id' =>
            simp only [hstat] at hconnect
            split at hconnect
            · rw [← Except.ok.inj hconnect]
              exact Tree.socketAt?_of_find? (Tree.find?_of_stat hstat)
            · cases hconnect

theorem Named.connectsToFile (hnamed : h.Named) (htext : text.toList = c :: rest)
    (hc : c ≠ '\x00') : h.ConnectsToFile text where
  connect names := by
    rw [connect?, connect?]
    cases haddress : pathAddress text with
    | error e => rfl
    | ok address =>
      cases address with
      | some name => exact absurd haddress (pathAddress_ne_some htext hc name)
      | none => rfl
  reached id hconnect := by
    obtain ⟨p, hlocate, hsocket⟩ := of_connect?_path (pathAddress_ne_some htext hc) hconnect
    refine ⟨⟨p, hlocate, hsocket⟩, fun held hheld heq => ?_⟩
    exact hnamed.apart held hheld p (heq ▸ hsocket)

/-- Whoever connects to a path that starts with a zero byte gets to the listener that has the name
behind it. -/
theorem Named.connect?_nul (hnamed : h.Named) (htext : text.toList = '\x00' :: rest) (id : Nat) :
    h.connect? (.path text) = .ok id ↔ (textBytes (String.ofList rest), id) ∈ h.names := by
  rw [connect?, pathAddress_nul htext]
  rcases nameAddress_cases (textBytes (String.ofList rest)) with ⟨e, haddress⟩ | haddress
  · rw [haddress]
    refine iff_of_false (fun h => by cases h) fun hmem => ?_
    cases (hnamed.fits _ hmem).symm.trans haddress
  · rw [haddress]
    exact hnamed.connectName?_iff _ id

/-- **A text keeps to its namespace, but for paths that start with a zero byte.**  Whatever was done
at whatever endpoints of a host before: a text with a mark is used as the name behind it and as
nothing else, so that two of them lead to the same listener exactly if they are the same behind
their marks.  Any other text is a path for whoever binds or cleans up; for whoever connects it is
one, too, unless it starts with a zero byte, and then it is the name behind that.  An endpoint that
is shown as a text is read back in any case. -/
theorem namespaces_kept (ht : t.WellFormed) (hsockets : ∀ p, t.socketAt? p = none)
    (deeds : List Deed) (hparse : Endpoint.parse text = .ok endpoint) :
    let h := (ofTree t).performAll deeds
    Endpoint.parse endpoint.display = .ok endpoint
      ∧ ∃ c rest, text.toList = c :: rest
        ∧ ((c = '#' ∨ c = '@') → endpoint = .name (String.ofList rest)
          ∧ h.KeepsToName endpoint (textBytes (String.ofList rest))
          ∧ ∀ text' endpoint' c' rest', Endpoint.parse text' = .ok endpoint' →
            text'.toList = c' :: rest' → (c' = '#' ∨ c' = '@') →
            ∀ id, h.connect? endpoint = .ok id → (h.connect? endpoint' = .ok id ↔ rest' = rest))
        ∧ (¬ (c = '#' ∨ c = '@') → endpoint = .path text ∧ h.KeepsToFiles text
          ∧ (c ≠ '\x00' → h.ConnectsToFile text)
          ∧ (c = '\x00' → ∀ id, h.connect? endpoint = .ok id
            ↔ (textBytes (String.ofList rest), id) ∈ h.names)) := by
  intro h
  have hnamed : h.Named := (named_ofTree ht hsockets).performAll deeds
  obtain ⟨c, rest, htext, hname, hpath⟩ := Endpoint.of_parse hparse
  refine ⟨Endpoint.parse_display hparse, c, rest, htext, fun hmark => ?_, fun hmark => ?_⟩
  · obtain ⟨-, rfl⟩ := hname hmark
    refine ⟨rfl, hnamed.keepsToName _, ?_⟩
    intro text' endpoint' c' rest' hparse' htext' hmark' id hid
    obtain ⟨_, _, htext'', hname', -⟩ := Endpoint.of_parse hparse'
    obtain ⟨rfl, rfl⟩ := List.cons.inj (htext'.symm.trans htext'')
    obtain ⟨-, rfl⟩ := hname' hmark'
    have hheld := (hnamed.connect?_name _ id).1 hid
    refine ⟨fun hid' => ?_, fun hrest => hrest ▸ hid⟩
    -- one listener has one name only
    have hsame := List.inj_on_of_nodup_map hnamed.single ((hnamed.connect?_name _ id).1 hid') hheld
      rfl
    exact String.ofList_injective (textBytes_inj (Prod.mk.inj hsame).1)
  · obtain rfl := hpath hmark
    refine ⟨rfl, keepsToFiles h text, hnamed.connectsToFile htext, ?_⟩
    rintro rfl
    exact hnamed.connect?_nul htext

/-! ### A listener with a name -/

/-- A host with one listener, which has the name `x`. -/
def withName : Host := ⟨.empty, [([120], 0)], [0], 1⟩

theorem textBytes_x : textBytes "x" = [120] := by
  rw [textBytes_eq]
  decide

theorem bind_withName : (ofTree .empty).bind (.name "x") = (.ok 0, withName) := by
  rw [bind, textBytes_x]
  rfl

/-- The listener is reached by its name, with either mark. -/
theorem namespaces_kept_of_x :
    Endpoint.parse "@x" = .ok (.name "x")
      ∧ (ofTree .empty).performAll [.bind (.name "x")] = withName
      ∧ withName.KeepsToName (.name "x") [120] ∧ withName.connect? (.name "x") = .ok 0 := by
  have hparse : Endpoint.parse "@x" = .ok (.name "x") := by decide
  have hhost : (ofTree .empty).performAll [.bind (.name "x")] = withName := by
    rw [performAll, List.foldl_cons, List.foldl_nil, perform, bind_withName]
  obtain ⟨-, c, rest, htext, hname, -⟩ :=
    namespaces_kept Tree.wellFormed_empty socketAt?_empty [.bind (.name "x")] hparse
  obtain ⟨rfl, rfl⟩ : '@' = c ∧ ['x'] = rest := List.cons.inj htext
  obtain ⟨-, hkeeps, -⟩ := hname (.inr rfl)
  rw [hhost, textBytes_x] at hkeeps
  exact ⟨hparse, hhost, hkeeps, (hkeeps.connect 0).2 List.mem_cons_self⟩

/-- The listener is reached by the path that is a zero byte and an `x`, too. -/
theorem name_reached_by_path :
    Endpoint.parse "\x00x" = .ok (.path "\x00x")
      ∧ (ofTree .empty).bind (.name "x") = (.ok 0, withName)
      ∧ withName.connect? (.path "\x00x") = .ok 0 := by
  have htext : "\x00x".toList = ['\x00', 'x'] := rfl
  refine ⟨by decide, bind_withName, ?_⟩
  rw [connect?, pathAddress_nul htext, show String.ofList ['x'] = "x" from rfl, textBytes_x]
  rfl

end Host
end TokenBroker
