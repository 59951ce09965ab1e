import EvoomGuard.Lib.Regex

/-!
What the pieces of an expression do to a text whose shape is known: a literal, a repetition that
stops where it must, and one that finds no way on.
-/

namespace EvoomGuard.Lib.Regex

variable {Group Result : Type}

theorem run_chain_cons (first second : Expr Group) (rest : List (Expr Group)) (text : Text)
    (captures : Captures Group) (next : Text → Captures Group → Option Result) :
    run (chain (first :: second :: rest)) text captures next =
      run first text captures fun after taken => run (chain (second :: rest)) after taken next :=
  rfl

theorem run_literal (letters : Text) (captures : Captures Group)
    (next : Text → Captures Group → Option Result) :
    ∀ text, run (literal letters) text captures next =
      if letters.isPrefixOf text then next (text.drop letters.length) captures else none := by
  induction letters with
  | nil =>
    intro text
    rw [List.isPrefixOf_nil_left, if_pos rfl]
    rfl
  | cons letter letters ih =>
    intro text
    have step : run (literal (letter :: letters)) text captures next =
        run (char letter) text captures fun after taken =>
          run (literal letters) after taken next := by
      cases letters <;> rfl
    rw [step]
    cases text with
    | nil => rfl
    | cons character text =>
      rw [char, run, List.isPrefixOf_cons_cons]
      by_cases same : letter = character
      · subst same
        simp only [beq_self_eq_true, Bool.true_and, if_true]
        exact ih text
      · have apart : (character == letter) = false := by simpa using Ne.symm same
        have apartToo : (letter == character) = false := by simpa using same
        rw [apart, apartToo, Bool.false_and]
        rfl

theorem run_literal_here (letters rest : Text) (captures : Captures Group)
    (next : Text → Captures Group → Option Result) :
    run (literal letters) (letters ++ rest) captures next = next rest captures := by
  have first : letters.isPrefixOf (letters ++ rest) = true :=
    List.isPrefixOf_iff_prefix.mpr (List.prefix_append letters rest)
  rw [run_literal, if_pos first, List.drop_left]

theorem run_literal_apart (letters text : Text) (captures : Captures Group)
    (next : Text → Captures Group → Option Result) (apart : ∀ rest, text ≠ letters ++ rest) :
    run (literal letters) text captures next = none := by
  rw [run_literal, if_neg]
  intro first
  obtain ⟨rest, whole⟩ := List.isPrefixOf_iff_prefix.mp first
  exact apart rest whole.symm

variable (accepts : Char → Bool) (next : Text → Option Result)

theorem run_many_stops (taken rest : Text)
    (every : ∀ character ∈ taken, accepts character = true)
    (stops : ∀ character ∈ rest.head?, accepts character = false) {result : Result}
    (found : next rest = some result) : runMany accepts next (taken ++ rest) = some result := by
  induction taken with
  | nil =>
    cases rest with
    | nil => exact found
    | cons character rest =>
      have refused := stops character rfl
      rw [List.nil_append, runMany, if_neg (ne_true_of_eq_false refused)]
      exact found
  | cons character taken ih =>
    have accepted := every character List.mem_cons_self
    have later := ih fun other inside => every other (List.mem_cons_of_mem _ inside)
    rw [List.cons_append, runMany, if_pos accepted, later]

theorem run_many_fails (text : Text)
    (fails : ∀ taken rest, text = taken ++ rest →
      (∀ character ∈ taken, accepts character = true) → next rest = none) :
    runMany accepts next text = none := by
  induction text with
  | nil => exact fails [] [] rfl (by simp)
  | cons character text ih =>
    have here := fails [] (character :: text) rfl (by simp)
    rw [runMany]
    by_cases accepted : accepts character = true
    · have later := ih fun taken rest whole every => by
        apply fails (character :: taken) rest (by rw [whole, List.cons_append])
        intro other inside
        rw [List.mem_cons] at inside
        cases inside with
        | inl first => rw [first, accepted]
        | inr after => exact every other after
      rw [if_pos accepted, later]
      exact here
    · rw [if_neg accepted]
      exact here

theorem run_many_lazy_stops (taken rest : Text)
    (every : ∀ character ∈ taken, accepts character = true)
    (fails : ∀ before after, taken = before ++ after → after ≠ [] → next (after ++ rest) = none)
    {result : Result} (found : next rest = some result) :
    runManyLazy accepts next (taken ++ rest) = some result := by
  induction taken with
  | nil =>
    cases rest with
    | nil => exact found
    | cons character rest => rw [List.nil_append, runManyLazy, found]
  | cons character taken ih =>
    have here := fails [] (character :: taken) rfl (by simp)
    have accepted := every character List.mem_cons_self
    have later := ih (fun other inside => every other (List.mem_cons_of_mem _ inside))
      fun before after whole more =>
        fails (character :: before) after (by rw [whole, List.cons_append]) more
    rw [List.cons_append] at here ⊢
    rw [runManyLazy, here]
    dsimp only
    rw [if_pos accepted, later]

theorem run_optional_absent (character : Char) (text : Text) (captures : Captures Group)
    (next : Text → Captures Group → Option Result) (absent : text.head? ≠ some character) :
    run (optional (char character)) text captures next = next text captures := by
  have skipped : run (char character) text captures next = none := by
    cases text with
    | nil => rfl
    | cons other rest =>
      have apart : (other == character) = false := by
        simpa using absent
      rw [char, run, apart]
      rfl
  rw [optional, run, skipped]
  rfl

theorem run_optional_present (character : Char) (rest : Text) (captures : Captures Group)
    (next : Text → Captures Group → Option Result) :
    run (optional (char character)) (character :: rest) captures next =
      match next rest captures with
      | some result => some result
      | none => next (character :: rest) captures := by
  have taken : run (char character) (character :: rest) captures next = next rest captures := by
    simp [char, run]
  rw [optional, run, taken]
  rfl

end EvoomGuard.Lib.Regex
