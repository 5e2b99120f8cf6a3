import Mathlib
import KSharp.Proofs.LexerRuns
import KSharp.Proofs.TokenContexts

/-! Tokens printed one behind the other, with blanks and pipes between them, are the tokens of the
text that is printed.
-/

namespace KSharp

-----------------------------------------------------------------------------------------
-- Printing
-----------------------------------------------------------------------------------------

namespace Token

/-- What a token is, wherever it stands. -/
def content (token : Token) : Kind × Text × Value := (token.kind, token.raw, token.value)

/-- A token as it is printed, last of all tokens or not. A blank ends it, behind a pipe if it is a
value; a parameter runs on into its value, and the last value to the end.
-/
def printed (token : Token) (last : Bool) : Text :=
  match token.kind with
  | .parameter => token.raw
  | .parameterValue =>
    if token.raw = [] then "|| ".toList
    else if last then token.raw
    else token.raw ++ "| ".toList
  | _ => token.raw ++ [' ']

/-- The text of tokens. -/
def print : List Token → Text
  | [] => []
  | token :: rest => token.printed rest.isEmpty ++ print rest

theorem printed_parameter {token : Token} (parameter : token.kind = .parameter) (last : Bool)
    : token.printed last = token.raw := by
  simp [printed, parameter]

theorem printed_ordinary {token : Token} (parameter : token.kind ≠ .parameter)
    (value : token.kind ≠ .parameterValue) (last : Bool)
    : token.printed last = token.raw ++ [' '] := by
  unfold printed
  split
  · contradiction
  · contradiction
  · rfl

theorem printed_value {token : Token} (value : token.kind = .parameterValue)
    (nonempty : token.raw ≠ []) (last : Bool)
    : token.printed last = if last then token.raw else token.raw ++ "| ".toList := by
  simp [printed, value, nonempty]

end Token

-----------------------------------------------------------------------------------------
-- Printed values
-----------------------------------------------------------------------------------------

namespace Scan

theorem delimits_blank (rest : Text) : Delimits ['|'] (' ' :: rest) :=
  delimits_pipe_iff.mpr rfl

/-- Two pipes are an empty value. -/
theorem valueReads_pipes (rest : Text) : ValueReads ['|'] [] ['|'] (' ' :: rest) := by
  refine ⟨delimits_pipe_iff.mpr rfl, by simp, ?_, delimits_blank rest⟩
  simp [Parameter.splitValue]

/-- A value that was not the end of the text is read again before a pipe and a blank. -/
theorem ValueReads.again_closed {separator raw closing after}
    (reads : ValueReads separator raw closing after) (nonempty : raw ≠ [])
    (more : closing ++ after ≠ []) (rest : Text)
    : ValueReads [] raw ['|'] (' ' :: rest) :=
  ⟨reads.delimits_nil nonempty _, by simp, reads.split_again.2 more _, delimits_blank rest⟩

/-- A value is read again where the text ends behind it. -/
theorem ValueReads.again_last {separator raw closing after}
    (reads : ValueReads separator raw closing after) (nonempty : raw ≠ [])
    : ValueReads [] raw [] [] := by
  refine ⟨reads.delimits_nil nonempty _, by simpa using nonempty, ?_, ?_⟩
  · simpa using reads.split_again.1
  · exact delimits_nil_iff.mpr (by simp)

end Scan

-----------------------------------------------------------------------------------------
-- The tokens of a printed text
-----------------------------------------------------------------------------------------

namespace Lexer

/-- Over a text tokens with the same contents can be read from a phase, at any place. -/
def Rereads (phase : Phase) (text : Text) (tokens : List Token) : Prop :=
  ∀ place,
    ∃ again,
      Run .strict phase place text again .complete
      ∧ again.map Token.content = tokens.map Token.content

theorem Rereads.nil {lead : Text} (closed : Trivia.Closed lead) : Rereads .token lead [] := by
  intro place
  exact ⟨[], .of_closed closed .strict place, rfl⟩

theorem Rereads.token {token : Token} {lead rest tokens}
    (step : ∀ place,
      Scan.ahead .strict place (lead ++ token.raw ++ rest)
        = .token { token with offset := place + lead.length }
            (place + (lead ++ token.raw).length))
    (more : Rereads (.after token.kind) rest tokens)
    : Rereads .token (lead ++ token.raw ++ rest) (token :: tokens) := by
  intro place
  obtain ⟨again, run, contents⟩ := more (place + (lead ++ token.raw).length)
  refine ⟨_, .token_append (step place) run, ?_⟩
  rw [List.map_cons, List.map_cons, contents]
  rfl

theorem Rereads.value {token : Token} {separator raw closing rest tokens}
    (reads : Scan.ValueReads separator raw closing rest)
    (same : token.content = (.parameterValue, raw, .text (Escape.unescapePipes raw)))
    (more : Rereads .token rest tokens)
    : Rereads .value (separator ++ (raw ++ closing) ++ rest) (token :: tokens) := by
  intro place
  obtain ⟨again, run, contents⟩ := more (place + (separator ++ (raw ++ closing)).length)
  refine ⟨_, .value_append reads run, ?_⟩
  rw [List.map_cons, List.map_cons, contents, same]
  rfl

/-- The text of the tokens of a complete run is read to the same tokens again, behind closed
trivia as well where no value is owed. By induction on the run.
-/
theorem Run.rereads {phase pos text tokens} (run : Run .strict phase pos text tokens .complete)
    {lead : Text} (closed : Trivia.Closed lead) (bare : phase = .value → lead = [])
    : Rereads phase (lead ++ Token.print tokens) tokens := by
  have blank : Trivia.Closed [' '] := .blank (by decide) .nil
  generalize equal : Ending.complete = ending at run
  induction run generalizing lead with
  | @token pos text token next tokens _ step more ih =>
      obtain ⟨trivia, parts⟩ := Scan.ahead_token step
      by_cases parameter : token.kind = .parameter
      · rw [Token.print, Token.printed_parameter parameter, ← List.append_assoc]
        refine .token ?_ (ih .nil (fun _ => rfl) equal)
        intro place
        exact Scan.ahead_parameter step parameter closed (Token.print tokens) place
      · have owed : Phase.after token.kind = .value → [' '] = [] := by
          simp [Phase.after, parameter]
        rw [Token.print, Token.printed_ordinary parameter parts.ordinary, List.append_assoc,
          ← List.append_assoc]
        refine .token ?_ (ih blank owed equal)
        intro place
        exact Scan.ahead_again step closed (.of_blank (by decide) _ _) (by simp) .strict place
  | @value pos text token next tokens _ step more ih =>
      obtain rfl := bare rfl
      obtain ⟨separator, raw, closing, reads, source, rfl, moves⟩ := Scan.valueAhead_reads step
      by_cases empty : raw = []
      · subst empty
        exact .value (Scan.valueReads_pipes _) rfl (ih blank (by simp) equal)
      · cases tokens with
        | nil =>
            have text : Token.print [Scan.valueToken pos separator raw closing]
                = [] ++ (raw ++ []) ++ [] := by
              rw [Token.print, Token.printed_value rfl empty]
              simp [Scan.valueToken, Token.print]
            rw [List.nil_append, text]
            exact .value (reads.again_last empty) rfl (.nil .nil)
        | cons first rest =>
            -- Text was left behind the value, so no backslash at its end hides the printed pipe.
            have remains : closing ++ text.drop (next - pos) ≠ [] := by
              intro nothing
              rw [(List.append_eq_nil_iff.mp nothing).2] at more
              cases more.of_nil.1
            have text : Token.print (Scan.valueToken pos separator raw closing :: first :: rest)
                = [] ++ (raw ++ ['|']) ++ ' ' :: Token.print (first :: rest) := by
              rw [Token.print, Token.printed_value rfl empty]
              simp [Scan.valueToken]
            rw [List.nil_append, text]
            exact .value (reads.again_closed empty remains _) rfl (ih blank (by simp) equal)
  | ended step =>
      rw [Token.print, List.append_nil]
      exact .nil closed
  | failed step => cases equal
  | supplied step =>
      obtain rfl := bare rfl
      exact .value (Scan.valueReads_pipes _) rfl (.nil blank)

/-- What tokens print is an expression with the same kinds, source texts and values, if an
expression has these tokens at all. Witness: the run over the printed text.
-/
theorem tokenize_print {expression tokens} (h : tokenize .strict expression = .ok tokens)
    : ∃ again,
        tokenize .strict (Token.print tokens) = .ok again
        ∧ again.map Token.content = tokens.map Token.content := by
  have rereads := (tokenize_strict_eq_ok_iff.mp h).rereads .nil (by simp)
  obtain ⟨again, run, contents⟩ := rereads 0
  exact ⟨again, tokenize_strict_eq_ok_iff.mpr run, contents⟩

/-- An integer with a member is printed in three parts, a parameter without a value with two pipes,
and a value that ends in a backslash at the end without a pipe.
-/
theorem tokenize_print_apart
    : let tokens : List Token :=
        [
          ⟨.integer, ['2'], .integer 2, 0⟩,
          ⟨.dot, ['.'], .text ['.'], 1⟩,
          ⟨.identifier, ['y'], .text ['y'], 2⟩,
          ⟨.parameter, "|(a)".toList, .text ['a'], 3⟩,
          ⟨.parameterValue, [], .text [], 6⟩,
          ⟨.parameter, "|(b)".toList, .text ['b'], 7⟩,
          ⟨.parameterValue, "z\\".toList, .text "z\\".toList, 11⟩
        ]
      tokenize .strict "2.y|(a)|(b)z\\".toList = .ok tokens
        ∧ Token.print tokens = "2 . y |(a)|| |(b)z\\".toList
        ∧ ∃ again,
            tokenize .strict (Token.print tokens) = .ok again
            ∧ again.map Token.content = tokens.map Token.content := by
  intro tokens
  have given : tokenize .strict "2.y|(a)|(b)z\\".toList = .ok tokens := by cbv
  exact ⟨given, by decide, tokenize_print given⟩

end Lexer

end KSharp
