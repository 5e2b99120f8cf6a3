import KSharp.Proofs.ErrorCuts
import KSharp.Proofs.TokenPlacement

/-! The stream of an expression comes to an end and stays there: it has at most one item for each
character, of which only the last can be an error, and calls behind it yield nothing.
-/

namespace KSharp.Lexer

-----------------------------------------------------------------------------------------
-- Calls
-----------------------------------------------------------------------------------------

/-- Successive calls yield the items of the stream in their order, and then nothing. By induction on
the number of calls, each of which leaves the rest of the stream.
-/
theorem calls_eq (n : Nat) (lexer : Lexer)
    : lexer.calls n
      = (lexer.items.take n).map some ++ List.replicate (n - lexer.items.length) none := by
  induction n generalizing lexer with
  | zero => simp [calls]
  | succ n ih =>
      rw [calls, next_eq_head?, ih, items_next]
      cases lexer.items with
      | nil => simp [List.replicate_succ]
      | cons item rest => simp

-----------------------------------------------------------------------------------------
-- The number of items
-----------------------------------------------------------------------------------------

/-- The error that an ending reports, which only the strict mode does. -/
def Ending.error? (mode : Mode) (expression : Text) : Ending → Option LexError
  | .complete => none
  | .failed cause offset =>
    match mode with
    | .strict => some ⟨cause, offset, expression⟩
    | .lenient => none

theorem Ending.items_eq_error? (mode : Mode) (expression : Text) (ending : Ending)
    : ending.items mode expression = (ending.error? mode expression).toList.map .error := by
  cases ending <;> cases mode <;> rfl

theorem Ending.error?_lenient (expression : Text) (ending : Ending)
    : ending.error? .lenient expression = none := by
  cases ending <;> rfl

/-- A run reads at most one token for each character, since tokens have offsets of their own. -/
theorem Run.length_le {mode text tokens ending} (run : Run mode .token 0 text tokens ending)
    : tokens.length ≤ text.length := by
  have placed := run.placed (.start text) (by simp)
  refine length_le_of_ordered placed.ordered ?_
  intro token member
  exact (placed.within token member).offset_lt

/-- Where a strict run fails, its tokens are those of the text before the error, so the character at
the error is left for the error.
-/
theorem Run.length_lt {text tokens cause offset}
    (run : Run .strict .token 0 text tokens (.failed cause offset))
    : tokens.length < text.length := by
  obtain ⟨kept, cut, before⟩ := run.cut
  obtain ⟨c, rest, rfl, -⟩ := cut.source
  have bound := before.length_le
  rw [List.length_append, List.length_cons]
  omega

theorem Run.length_items_le {mode text tokens ending}
    (run : Run mode .token 0 text tokens ending)
    : (start mode text).items.length ≤ text.length := by
  rw [start, run.items_eq (.start text), List.length_append, List.length_map]
  cases ending with
  | complete => exact run.length_le
  | failed cause offset =>
      cases mode with
      | strict => exact run.length_lt
      | lenient => exact run.length_le

theorem collect_eq (tokens : List Token) (failure : Option LexError)
    : collect (tokens.map .ok ++ failure.toList.map .error)
      = failure.elim (.ok tokens) .error := by
  cases failure with
  | none => simpa using collect_ok tokens
  | some error => exact collect_error tokens error

/-- However often a lexer is called, it yields tokens, then at most one error and then nothing; the
lenient mode yields no error. There are at most as many items as characters, so calls beyond that
number yield nothing. Tokenizing gives the error if there is one, and otherwise all the tokens.
Witness: the run from the start and what its ending reports.
-/
theorem calls_exhausted (mode : Mode) (expression : Text)
    : ∃ (tokens : List Token) (failure : Option LexError),
        let items : List Item := tokens.map .ok ++ failure.toList.map .error
        (∀ n,
          (start mode expression).calls n
            = (items.take n).map some ++ List.replicate (n - items.length) none)
        ∧ (mode = .lenient → failure = none)
        ∧ items.length ≤ expression.length
        ∧ (∀ n i,
            expression.length ≤ i
            → i < n
            → ((start mode expression).calls n)[i]? = some none)
        ∧ tokenize mode expression = failure.elim (.ok tokens) .error := by
  obtain ⟨tokens, ending, run⟩ := run_total mode .token 0 expression (by simp)
  have stream : (start mode expression).items = _ := run.items_eq (.start expression)
  rw [Ending.items_eq_error?] at stream
  have bound := run.length_items_le
  refine ⟨tokens, ending.error? mode expression, ?_, ?_, stream ▸ bound, ?_, ?_⟩
  · intro n
    rw [calls_eq, stream]
  · rintro rfl
    exact ending.error?_lenient expression
  · intro n i behind called
    rw [calls_getElem?, if_pos called, List.getElem?_eq_none (bound.trans behind)]
  · rw [tokenize, stream, collect_eq]

end KSharp.Lexer
