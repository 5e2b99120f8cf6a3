import KSharp.Proofs.TextReplacement
import KSharp.Proofs.TokenLaws

/-! Verbatim literals and texts correspond one to one: each text has the literal in which its quotes
are doubled, which is read as that text, and no other verbatim literals are read.
-/

namespace KSharp

-----------------------------------------------------------------------------------------
-- Bodies
-----------------------------------------------------------------------------------------

namespace Escape

/-- The body of the verbatim literal of a text: each quote is doubled. -/
def doubleQuotes (text : Text) : Text := Text.replaceAll ['"'] ['"', '"'] text

theorem doubleQuotes_cons (c : Char) (rest : Text)
    : doubleQuotes (c :: rest) = (if c = '"' then ['"', '"'] else [c]) ++ doubleQuotes rest :=
  Text.replaceAll_char_cons '"' ['"', '"'] c rest

theorem unescapeVerbatim_doubleQuotes (text : Text)
    : unescapeVerbatim (doubleQuotes text) = text :=
  Text.replaceAll_marked '"' '"' text

end Escape

namespace Lexeme

/-- With its quotes doubled a text can stand in a verbatim literal, by induction on the text. -/
theorem verbatimBody_doubleQuotes (text : Text) : VerbatimBody (Escape.doubleQuotes text) := by
  induction text with
  | nil => exact .nil
  | cons c rest ih =>
      rw [Escape.doubleQuotes_cons]
      split
      · exact .quotes ih
      · next quote => exact .kept quote ih

/-- A body is what its text is written as, by induction on the grammar: its quotes are pairs, which
the decoding takes from the left as the grammar does.
-/
theorem VerbatimBody.doubleQuotes {body} (grammar : VerbatimBody body)
    : Escape.doubleQuotes (Escape.unescapeVerbatim body) = body := by
  induction grammar with
  | nil => rfl
  | @quotes body more ih =>
      have decoded : Escape.unescapeVerbatim ('"' :: '"' :: body)
          = '"' :: Escape.unescapeVerbatim body :=
        Text.replaceAll_append (List.cons_ne_nil '"' ['"']) ['"'] body
      rw [decoded, Escape.doubleQuotes_cons, ih]
      rfl
  | @kept c body quote more ih =>
      have absent : ¬['"', '"'] <+: c :: body := by
        intro pair
        exact quote (List.cons_prefix_cons.mp pair).1.symm
      have decoded : Escape.unescapeVerbatim (c :: body) = c :: Escape.unescapeVerbatim body :=
        Text.replaceAll_cons absent ['"']
      rw [decoded, Escape.doubleQuotes_cons, if_neg quote, ih]
      rfl

-----------------------------------------------------------------------------------------
-- Even runs of quotes
-----------------------------------------------------------------------------------------

/-- Runs stay even without a character in front that is no quote. -/
theorem VerbatimOpen.tail {c : Char} {text : Text} (runs : VerbatimOpen (c :: text))
    (quote : c ≠ '"')
    : VerbatimOpen text := by
  intro front n after equal before behind
  apply runs (c :: front) n after (by rw [equal, List.cons_append]) ?_ behind
  cases front with
  | nil => simpa using quote
  | cons d front => simpa [List.getLast?_cons] using before

/-- Runs stay even without two quotes in front, which belong to one run. -/
theorem VerbatimOpen.tail_pair {text : Text} (runs : VerbatimOpen ('"' :: '"' :: text))
    : VerbatimOpen text := by
  intro front n after equal before behind
  cases front with
  | nil =>
      have longer : '"' :: '"' :: text = [] ++ (List.replicate (n + 2) '"' ++ after) := by
        rw [equal]
        rfl
      have even := runs [] (n + 2) after longer (by simp) behind
      omega
  | cons d front =>
      apply runs ('"' :: '"' :: d :: front) n after (by rw [equal]; rfl) ?_ behind
      simpa [List.getLast?_cons] using before

/-- A text in which all runs of quotes are even is a body, by induction along the reader's
recursion: a single quote would be a run by itself.
-/
theorem VerbatimOpen.body {text : Text} (runs : VerbatimOpen text) : VerbatimBody text := by
  fun_induction verbatimBody? text with
  | case1 => exact .nil
  | case2 rest ih => exact .quotes (ih runs.tail_pair)
  | case3 rest single =>
      have behind : rest.head? ≠ some '"' := by
        intro pair
        obtain ⟨more, rfl⟩ := List.head?_eq_some_iff.mp pair
        exact single more rfl rfl
      have odd := runs [] 1 rest rfl (by simp) behind
      cases odd
  | case4 c rest _ quote ih => exact .kept quote (ih (runs.tail quote))

-----------------------------------------------------------------------------------------
-- Literals
-----------------------------------------------------------------------------------------

/-- The verbatim literal of a text. -/
def verbatimSource (text : Text) : Text := '@' :: '"' :: Escape.doubleQuotes text ++ ['"']

/-- The literal of a text is read as that text, unless another quote follows. -/
theorem reads_verbatimSource (text : Text) {after : Text} (closes : after.head? ≠ some '"')
    : Reads .string (verbatimSource text) (.text text) after := by
  have reads : Reads .string (verbatimSource text) _ after :=
    .verbatim (verbatimBody_doubleQuotes text) closes
  rwa [Escape.unescapeVerbatim_doubleQuotes] at reads

/-- A closed literal that starts with an at sign is that of its value. -/
theorem ClosedLiteral.eq_verbatimSource {raw value} (literal : ClosedLiteral raw value)
    (verbatim : raw.head? = some '@')
    : ∃ text, value = .text text ∧ raw = verbatimSource text := by
  cases literal with
  | quoted grammar => cases verbatim
  | @verbatim body text pairs single =>
      have written : Escape.doubleQuotes text = body := by
        rw [(Text.replaced_iff (by simp)).mp single]
        exact pairs.body.doubleQuotes
      refine ⟨text, rfl, ?_⟩
      rw [verbatimSource, written]

end Lexeme

namespace Lexer

/-- In either mode, where the verbatim literal of a text stands and no quote follows it, a step
reads just that literal, with the text as its value, and moves behind it. Conversely each string of
a stream that starts with an at sign is the verbatim literal of its value. Witness: the grammar of
verbatim bodies, and the law of strings.
-/
theorem verbatim_round_trip (mode : Mode)
    : (∀ before text after,
        after.head? ≠ some '"'
        → let literal := Lexeme.verbatimSource text
          Scan.tokenAt mode (before ++ (literal ++ after)) before.length
            = .token ⟨.string, literal, .text text, before.length⟩
                (before.length + literal.length))
      ∧ ∀ expression,
          ∀ token ∈ (start mode expression).tokens,
            token.kind = .string
            → token.raw.head? = some '@'
            → ∃ text, token.value = .text text ∧ token.raw = Lexeme.verbatimSource text := by
  constructor
  · intro before text after closes literal
    have absent : Trivia.Absent (literal ++ after) :=
      Trivia.absent_cons (by decide) (by decide) _
    have step := Scan.ahead_of_reads .nil absent (Lexeme.reads_verbatimSource text closes) mode
      before.length
    rw [Scan.tokenAt, List.drop_left]
    exact step
  · intro expression token member string verbatim
    obtain ⟨tokens, ending, run, read⟩ := exists_run_of_mem member
    obtain ⟨kind, raw, value, offset⟩ := token
    obtain rfl : kind = .string := string
    rcases run.lawful (.start expression) _ read with law | ⟨-, -, -, body, source, -⟩
    · exact Lexeme.ClosedLiteral.eq_verbatimSource law verbatim
    · obtain rfl : raw = '"' :: body := source
      cases verbatim

/-- A text with quotes at both ends and a backslash is read from its literal, and is written so. -/
theorem verbatim_round_trip_quotes
    : let expression := "x+@\"\"\"a\\\"\"\".y".toList
      let text := "\"a\\\"".toList
      let token : Token := ⟨.string, Lexeme.verbatimSource text, .text text, 2⟩
      ".y".toList.head? ≠ some '"'
        ∧ expression = "x+".toList ++ (Lexeme.verbatimSource text ++ ".y".toList)
        ∧ Scan.tokenAt .strict expression 2 = .token token 11
        ∧ token ∈ (start .strict expression).tokens
        ∧ token.raw.head? = some '@'
        ∧ ∃ text, token.value = .text text ∧ token.raw = Lexeme.verbatimSource text := by
  have tokens : (start .strict "x+@\"\"\"a\\\"\"\".y".toList).tokens
      = [⟨.identifier, ['x'], .text ['x'], 0⟩,
          ⟨.operator, ['+'], .text ['+'], 1⟩,
          ⟨.string, Lexeme.verbatimSource "\"a\\\"".toList, .text "\"a\\\"".toList, 2⟩,
          ⟨.dot, ['.'], .text ['.'], 11⟩,
          ⟨.identifier, ['y'], .text ['y'], 12⟩] := by
    cbv
  have closes : ".y".toList.head? ≠ some '"' := by decide
  have member : Token.mk .string (Lexeme.verbatimSource "\"a\\\"".toList) (.text "\"a\\\"".toList) 2
      ∈ (start .strict "x+@\"\"\"a\\\"\"\".y".toList).tokens := by
    rw [tokens]
    simp
  obtain ⟨reads, writes⟩ := verbatim_round_trip .strict
  exact ⟨closes, rfl, reads "x+".toList "\"a\\\"".toList ".y".toList closes, member, rfl,
    writes _ _ member rfl rfl⟩

end Lexer

end KSharp
