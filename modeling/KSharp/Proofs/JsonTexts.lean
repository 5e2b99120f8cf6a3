import KSharp.Command
import KSharp.Proofs.TokenLaws

/-! The JSON texts of tokens: strings and offsets can be read back from the front of a text, and the
value of a lawful token by its kind and source text. So no two lists of tokens have one JSON text,
although the type of a value is not recorded and infinite doubles are null.
-/

namespace KSharp

namespace Json

-----------------------------------------------------------------------------------------
-- Strings
-----------------------------------------------------------------------------------------

/-- The number that a hexadecimal digit with a small letter stands for. -/
def hexValue (digit : Char) : Nat := digit.toNat - if digit.isDigit then '0'.toNat else 87

/-- The first character written in the rest of a JSON string, and what stands behind it; none at the
closing quote.
-/
def readChar? : Text → Option (Char × Text)
  | [] => none
  | '"' :: _ => none
  | '\\' :: 'b' :: rest => some ('\u0008', rest)
  | '\\' :: 'f' :: rest => some ('\u000c', rest)
  | '\\' :: 'n' :: rest => some ('\n', rest)
  | '\\' :: 'r' :: rest => some ('\r', rest)
  | '\\' :: 't' :: rest => some ('\t', rest)
  | '\\' :: 'u' :: '0' :: '0' :: high :: low :: rest =>
    some (Char.ofNat (16 * hexValue high + hexValue low), rest)
  | '\\' :: c :: rest => some (c, rest)
  | c :: rest => some (c, rest)

/-- A written character is read back, whatever follows, by the cases of its writing. -/
theorem readChar?_stringChar (c : Char) (rest : Text)
    : readChar? (stringChar c ++ rest) = some (c, rest) := by
  unfold stringChar
  split_ifs with quote backslash backspace feed line carriage tab small
  · subst quote
    rfl
  · subst backslash
    rfl
  · subst backspace
    rfl
  · subst feed
    rfl
  · subst line
    rfl
  · subst carriage
    rfl
  · subst tab
    rfl
  · have digits : ∀ n < 32,
        16 * hexValue (Nat.digitChar (n / 16)) + hexValue (Nat.digitChar (n % 16)) = n := by
      decide
    have read : readChar? (['\\', 'u', '0', '0', Nat.digitChar (c.toNat / 16),
          Nat.digitChar (c.toNat % 16)] ++ rest)
        = some (Char.ofNat (16 * hexValue (Nat.digitChar (c.toNat / 16))
            + hexValue (Nat.digitChar (c.toNat % 16))), rest) := rfl
    rw [read, digits c.toNat small, Char.ofNat_toNat]
  · simp [readChar?, backslash]

/-- The written characters of texts in front of closing quotes agree only if the texts do. By
induction on the first text, reading both from the front.
-/
theorem flatMap_stringChar_inj {text other after rest : Text}
    (same : text.flatMap stringChar ++ '"' :: after = other.flatMap stringChar ++ '"' :: rest)
    : text = other ∧ after = rest := by
  induction text generalizing other with
  | nil =>
      cases other with
      | nil =>
          cases same
          exact ⟨rfl, rfl⟩
      | cons d others =>
          have read := congrArg readChar? same
          rw [List.flatMap_cons, List.append_assoc, readChar?_stringChar] at read
          cases read
  | cons c more ih =>
      have read := congrArg readChar? same
      rw [List.flatMap_cons, List.append_assoc, readChar?_stringChar] at read
      cases other with
      | nil => cases read
      | cons d others =>
          rw [List.flatMap_cons, List.append_assoc, readChar?_stringChar] at read
          obtain ⟨first, later⟩ := Prod.mk.inj (Option.some.inj read)
          obtain ⟨rfl, rest⟩ := ih later
          exact ⟨by rw [first], rest⟩

/-- A JSON string ends at its closing quote, so it can be read back from the front of a text. -/
theorem string_append_inj {text other after rest : Text}
    : string text ++ after = string other ++ rest ↔ text = other ∧ after = rest := by
  constructor
  · intro same
    simp only [string, List.append_assoc, List.cons_append, List.nil_append, List.cons.injEq,
      true_and] at same
    exact flatMap_stringChar_inj same
  · rintro ⟨rfl, rfl⟩
    rfl

-----------------------------------------------------------------------------------------
-- Brackets
-----------------------------------------------------------------------------------------

/-- The layout puts nothing but blanks before items and closing brackets. -/
def Layout.Blank (layout : Layout) : Prop := ∀ depth, ∀ c ∈ layout.newline depth, isBlank c

theorem Layout.compact_blank : compact.Blank := by
  intro depth c member
  cases member

theorem Layout.pretty_blank : pretty.Blank := by
  intro depth c member
  rcases List.mem_cons.mp member with rfl | space
  · decide
  · rw [List.eq_of_mem_replicate space]
    decide

/-- What is put before an item or a bracket starts with a blank, if it is not empty. -/
theorem Layout.Blank.first {layout : Layout} (blank : layout.Blank) {depth : Nat} {c d : Char}
    {rest : Text} (first : (layout.newline depth ++ c :: rest).head? = some d)
    : isBlank d ∨ d = c := by
  cases space : layout.newline depth with
  | nil =>
      rw [space] at first
      exact Or.inr (Option.some.inj first).symm
  | cons front more =>
      rw [space] at first
      obtain rfl : front = d := Option.some.inj first
      exact Or.inl (blank depth front (by simp [space]))

/-- What follows an item between brackets: the other items behind commas, and the closing bracket. -/
def remaining (layout : Layout) (depth : Nat) (right : Char) : List Text → Text
  | [] => layout.newline depth ++ [right]
  | item :: more =>
    ',' :: layout.newline (depth + 1) ++ item ++ remaining layout depth right more

theorem bracketed_cons (layout : Layout) (depth : Nat) (left right : Char) (item : Text)
    (items : List Text)
    : bracketed layout depth left right (item :: items)
      = left :: layout.newline (depth + 1) ++ item ++ remaining layout depth right items := by
  have joined : List.intercalate [','] ((item :: items).map (layout.newline (depth + 1) ++ ·))
        ++ layout.newline depth ++ [right]
      = layout.newline (depth + 1) ++ item ++ remaining layout depth right items := by
    induction items generalizing item with
    | nil => simp [remaining]
    | cons next more ih =>
        have later := ih next
        rw [List.map_cons] at later
        rw [List.map_cons, List.map_cons, List.intercalate_cons_cons]
        simp only [List.append_assoc] at later ⊢
        rw [later]
        simp [remaining]
  rw [bracketed, if_neg (List.cons_ne_nil item items), List.append_assoc, List.cons_append,
    ← List.append_assoc, joined]
  rfl

end Json

-----------------------------------------------------------------------------------------
-- Objects
-----------------------------------------------------------------------------------------

/-- A number ends where no digit follows, so it can be read back from the front of a text. -/
theorem Text.ofNat_append_inj {m n : Nat} {after rest : Text} (stops : Stops Char.isDigit after)
    (others : Stops Char.isDigit rest) (same : ofNat m ++ after = ofNat n ++ rest)
    : m = n ∧ after = rest := by
  have digits {n : Nat} : ∀ c ∈ ofNat n, c.isDigit := fun c => isDigit_of_mem_ofNat
  have number := congrArg (List.takeWhile Char.isDigit) same
  have behind := congrArg (List.dropWhile Char.isDigit) same
  rw [stops.takeWhile_append digits, others.takeWhile_append digits] at number
  rw [stops.dropWhile_append digits, others.dropWhile_append digits] at behind
  exact ⟨ofNat_injective number, behind⟩

/-- All kinds. -/
def Kind.all : List Kind :=
  [
    .identifier, .integer, .double, .boolean, .string, .operator, .semicolon, .dot, .comma,
    .leftBracket, .rightBracket, .leftIndexer, .rightIndexer, .blockStart, .blockEnd, .parameter,
    .parameterValue
  ]

/-- A kind is found by its name. -/
theorem Kind.find?_name (kind : Kind) : Kind.all.find? (·.name = kind.name) = some kind := by
  cases kind <;> rfl

theorem Kind.name_injective {kind other : Kind} (same : kind.name = other.name) : kind = other := by
  have found := Kind.find?_name kind
  rw [same, Kind.find?_name other] at found
  exact (Option.some.inj found).symm

-----------------------------------------------------------------------------------------
-- Values
-----------------------------------------------------------------------------------------

/-- The value of a string literal by its source text, also if it is left open. -/
def Lexeme.literalValue : Text → Value
  | '"' :: rest => .text (Escape.meaning ((quotedBody? rest).getD rest))
  | raw => .text (Escape.unescapeVerbatim ((raw.drop 2).dropLast))

/-- The value of a token by its kind and source text. -/
def Kind.readValue (kind : Kind) (raw : Text) : Value :=
  match kind with
  | .integer => .integer (Text.decimal raw)
  | .double => .double (Binary64.ofLiteral raw)
  | .boolean => .boolean (raw.map Char.toLower = "true".toList)
  | .string => Lexeme.literalValue raw
  | .operator => .text (Unicode.lowercase raw)
  | .parameter => .text ((raw.drop 2).dropLast)
  | .parameterValue => .text (Escape.unescapePipes raw)
  | _ => .text raw

/-- A lawful token has the value of its kind and source text, by kinds. -/
theorem Kind.Law.value_eq {kind : Kind} {raw value} (law : kind.Law raw value)
    : value = kind.readValue raw := by
  cases kind with
  | identifier => exact law.1
  | integer => exact law.2.1
  | double => exact law.2
  | boolean =>
      obtain ⟨truth, spells, rfl⟩ := law
      cases truth <;> simp [readValue, spells]
  | string =>
      cases law with
      | quoted grammar =>
          have read := grammar.read []
          simp [readValue, Lexeme.literalValue, read]
      | verbatim pairs single =>
          rw [Text.replaced_iff (by simp)] at single
          simp [readValue, Lexeme.literalValue, Escape.unescapeVerbatim, single]
  | operator => exact law.1
  | parameter =>
      obtain ⟨name, -, rfl, rfl⟩ := law
      simp [readValue, Parameter.source]
  | parameterValue =>
      obtain ⟨text, rfl, bare⟩ := law
      exact congrArg Value.text ((Text.replaced_iff (by simp)).mp bare)
  | _ => exact law.2

/-- The token has the value that its kind and source text give. -/
def Token.Valued (token : Token) : Prop := token.value = token.kind.readValue token.raw

theorem Token.Lawful.valued {mode length} {token : Token} (lawful : token.Lawful mode length)
    : token.Valued := by
  rcases lawful with law | ⟨-, string, -, body, raw, literal, value⟩
  · exact Kind.Law.value_eq law
  · rw [Token.Valued, string, raw, value, Kind.readValue, Lexeme.literalValue,
      literal.quotedBody?, Option.getD_none]

-----------------------------------------------------------------------------------------
-- Tokens
-----------------------------------------------------------------------------------------

namespace Token

/-- The JSON object of a token can be read back from the front of a text: by its strings the kind and
the source text, by these the value, so that what is written for it can be passed over, and behind
it the offset.
-/
theorem json_append_inj {layout : Json.Layout} (blank : layout.Blank) {depth : Nat}
    {token other : Token} (valued : token.Valued) (again : other.Valued) {after rest : Text}
    (same : token.json layout depth ++ after = other.json layout depth ++ rest)
    : token = other ∧ after = rest := by
  obtain ⟨kind, raw, value, offset⟩ := token
  obtain ⟨kind', raw', value', offset'⟩ := other
  obtain rfl : value = kind.readValue raw := valued
  obtain rfl : value' = kind'.readValue raw' := again
  simp only [json, Json.object, List.map_cons, List.map_nil, Json.bracketed_cons, Json.remaining,
    List.append_assoc, List.cons_append, List.nil_append, List.cons.injEq, true_and,
    List.append_cancel_left_eq, Json.string_append_inj] at same
  obtain ⟨name, rfl, later⟩ := same
  obtain rfl := Kind.name_injective name
  simp only [List.append_cancel_left_eq, List.cons.injEq, true_and] at later
  have stops (rest : Text) : Text.Stops Char.isDigit (layout.newline depth ++ '}' :: rest) := by
    intro c first
    rcases blank.first first with hidden | rfl
    · exact isDigit_of_blank hidden
    · rfl
  obtain ⟨rfl, behind⟩ := Text.ofNat_append_inj (stops after) (stops rest) later
  simp only [List.append_cancel_left_eq, List.cons.injEq, true_and] at behind
  exact ⟨rfl, behind⟩

/-- Behind an item, the JSON objects of further tokens can be read back up to the closing bracket. By
induction on the tokens: a comma stands where another token follows.
-/
theorem remaining_inj {layout : Json.Layout} (blank : layout.Blank) {tokens others : List Token}
    (valued : ∀ token ∈ tokens, token.Valued) (again : ∀ token ∈ others, token.Valued)
    (same : Json.remaining layout 0 ']' (tokens.map (json layout 1))
      = Json.remaining layout 0 ']' (others.map (json layout 1)))
    : tokens = others := by
  have ended (rest : Text) : layout.newline 0 ++ [']'] ≠ ',' :: rest := by
    intro comma
    rcases blank.first (congrArg List.head? comma) with hidden | bracket
    · exact absurd hidden (by decide)
    · exact absurd bracket (by decide)
  induction tokens generalizing others with
  | nil =>
      cases others with
      | nil => rfl
      | cons other others => exact absurd same (ended _)
  | cons token tokens ih =>
      cases others with
      | nil => exact absurd same.symm (ended _)
      | cons other others =>
          obtain ⟨here, ahead⟩ := List.forall_mem_cons.mp valued
          obtain ⟨there, beyond⟩ := List.forall_mem_cons.mp again
          simp only [List.map_cons, Json.remaining, List.cons_append, List.append_assoc,
            List.cons.injEq, true_and, List.append_cancel_left_eq] at same
          obtain ⟨rfl, later⟩ := json_append_inj blank here there same
          rw [ih ahead beyond later]

/-- The JSON text of a list shows whether it is empty: an object stands before a bracket. -/
theorem jsonList_cons_ne_nil {layout : Json.Layout} (blank : layout.Blank) (token : Token)
    (tokens : List Token)
    : jsonList layout (token :: tokens) ≠ jsonList layout [] := by
  intro same
  simp only [jsonList, Json.array, List.map_cons, List.map_nil, Json.bracketed_cons, json,
    Json.object, List.append_assoc, List.cons_append] at same
  obtain ⟨-, object⟩ := List.cons.inj same
  rcases blank.first (congrArg List.head? object) with hidden | bracket
  · exact absurd hidden (by decide)
  · exact absurd bracket (by decide)

/-- No two lists of tokens with their own values have one JSON text, whatever blanks it has. -/
theorem jsonList_injective {layout : Json.Layout} (blank : layout.Blank)
    {tokens others : List Token} (valued : ∀ token ∈ tokens, token.Valued)
    (again : ∀ token ∈ others, token.Valued)
    (same : jsonList layout tokens = jsonList layout others)
    : tokens = others := by
  cases tokens with
  | nil =>
      cases others with
      | nil => rfl
      | cons other others => exact absurd same.symm (jsonList_cons_ne_nil blank other others)
  | cons token tokens =>
      cases others with
      | nil => exact absurd same (jsonList_cons_ne_nil blank token tokens)
      | cons other others =>
          -- Behind its bracket the list goes on as behind the comma of another item.
          rw [jsonList, jsonList, Json.array, Json.array, List.map_cons, List.map_cons,
            Json.bracketed_cons, Json.bracketed_cons] at same
          have behind := congrArg (fun text => ',' :: text.tail) same
          exact remaining_inj blank valued again behind

/-- The JSON texts of two lists of tokens, of any expressions in any modes, are the same only if the
lists are: the compact texts, and so are what is printed of them. Witness: the values by the laws of
the tokens.
-/
theorem jsonList_eq_iff {mode expression tokens} (read : tokenize mode expression = .ok tokens)
    {mode' expression' others} (again : tokenize mode' expression' = .ok others)
    : (jsonList .compact tokens = jsonList .compact others ↔ tokens = others)
      ∧ (Command.printTokens tokens .json = Command.printTokens others .json
        ↔ tokens = others) := by
  have first : ∀ token ∈ tokens, token.Valued := fun token member =>
    (Lexer.lawful_of_tokenize read token member).valued
  have second : ∀ token ∈ others, token.Valued := fun token member =>
    (Lexer.lawful_of_tokenize again token member).valued
  constructor
  · constructor
    · exact jsonList_injective Json.Layout.compact_blank first second
    · rintro rfl
      rfl
  · constructor
    · intro same
      have line := List.append_cancel_right (congrArg Command.Outcome.output same)
      exact jsonList_injective Json.Layout.pretty_blank first second line
    · rintro rfl
      rfl

/-- Two literals beyond the range of doubles are both null, and still told apart. -/
theorem jsonList_eq_iff_infinite
    : let tokens : List Token := [⟨.double, "1e999".toList, .double .infinity, 0⟩]
      let others : List Token := [⟨.double, "2e999".toList, .double .infinity, 0⟩]
      tokenize .strict "1e999".toList = .ok tokens
      ∧ tokenize .lenient "2e999".toList = .ok others
      ∧ tokens.map (·.value.json) = others.map (·.value.json)
      ∧ jsonList .compact tokens ≠ jsonList .compact others := by
  intro tokens others
  have read : tokenize .strict "1e999".toList = .ok tokens := by cbv
  have again : tokenize .lenient "2e999".toList = .ok others := by cbv
  have apart : tokens ≠ others := by decide
  exact ⟨read, again, rfl, fun same => apart ((jsonList_eq_iff read again).1.mp same)⟩

end Token

end KSharp
