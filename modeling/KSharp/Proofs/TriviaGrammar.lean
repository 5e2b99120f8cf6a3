import KSharp.Proofs.CharacterClasses
import KSharp.Trivia

/-! The grammar of trivia, and the longest trivia in front of a text as a text of that grammar.
Comments are described by their bodies, not by the regions of a scan.
-/

namespace KSharp.Trivia

/-- The body of a line comment reaches up to the next line end and holds none. -/
def LineBody (body : Text) : Prop := ∀ c ∈ body, Text.isLineEnd c = false

/-- The body of a block comment reaches up to the first closing mark and holds none. -/
def BlockBody (body : Text) : Prop := ¬['*', '/'] <:+: body

/-- Trivia in which every comment is closed: blanks, line comments each with the blank behind
it that is a line end, and block comments each up to the first asterisk and slash.
-/
inductive Closed : Text → Prop where
  | nil : Closed []
  | blank {c rest} (blank : isBlank c) (more : Closed rest) : Closed (c :: rest)
  | line {body c rest} (inside : LineBody body) (ends : Text.isLineEnd c) (more : Closed rest)
    : Closed ('/' :: '/' :: (body ++ c :: rest))
  | block {body rest} (inside : BlockBody body) (more : Closed rest)
    : Closed ('/' :: '*' :: (body ++ '*' :: '/' :: rest))

/-- A comment that the end of the text cuts off. -/
inductive Unclosed : Text → Prop where
  | line {body} (inside : LineBody body) : Unclosed ('/' :: '/' :: body)
  | block {body} (inside : BlockBody body) : Unclosed ('/' :: '*' :: body)

/-- Trivia at the end of a text: closed trivia, behind which one more comment may be cut off. -/
def Final (text : Text) : Prop :=
  ∃ trivia comment,
    text = trivia ++ comment ∧ Closed trivia ∧ (comment = [] ∨ Unclosed comment)

/-- A text of closed trivia in which one more block comment is opened and never closed. -/
def OpenBlock (text : Text) : Prop :=
  ∃ trivia body, text = trivia ++ '/' :: '*' :: body ∧ Closed trivia ∧ BlockBody body

theorem Closed.append {front back} (first : Closed front) (last : Closed back)
    : Closed (front ++ back) := by
  induction first with
  | nil => exact last
  | blank blank more ih => exact .blank blank ih
  | line inside ends more ih =>
      have comment := Closed.line inside ends ih
      simpa using comment
  | block inside more ih =>
      have comment := Closed.block inside ih
      simpa using comment

/-- A line feed closes trivia at the end of a text, unless a block comment is open there. -/
theorem Final.lineFeed {text} (final : Final text) (closed : ¬OpenBlock text)
    : Closed (text ++ ['\n']) := by
  obtain ⟨trivia, comment, rfl, front, last⟩ := final
  rcases last with rfl | last
  · rw [List.append_nil]
    exact front.append (.blank (by decide) .nil)
  · cases last with
    | line inside =>
        rw [List.append_assoc]
        exact front.append (.line inside (by decide) .nil)
    | block inside => exact absurd ⟨trivia, _, rfl, front, inside⟩ closed

/-- Trivia at the end of a text starts with a blank or with the slash of a comment. -/
theorem Final.first {text c} (final : Final text) (first : text.head? = some c)
    : isBlank c ∨ c = '/' := by
  obtain ⟨trivia, comment, rfl, front, last⟩ := final
  cases front with
  | nil =>
      rcases last with rfl | last
      · cases first
      · cases last <;> cases first <;> exact Or.inr rfl
  | blank blank more =>
      cases first
      exact Or.inl blank
  | line inside ends more =>
      cases first
      exact Or.inr rfl
  | block inside more =>
      cases first
      exact Or.inr rfl

-----------------------------------------------------------------------------------------
-- Final trivia grows to the left
-----------------------------------------------------------------------------------------

theorem Closed.final {trivia} (closed : Closed trivia) : Final trivia :=
  ⟨trivia, [], (List.append_nil trivia).symm, closed, Or.inl rfl⟩

theorem Unclosed.final {comment} (last : Unclosed comment) : Final comment :=
  ⟨[], comment, rfl, .nil, Or.inr last⟩

theorem Final.blank {c rest} (blank : isBlank c) (final : Final rest) : Final (c :: rest) := by
  obtain ⟨trivia, comment, rfl, closed, last⟩ := final
  exact ⟨c :: trivia, comment, rfl, .blank blank closed, last⟩

theorem Final.line {body c rest} (inside : LineBody body) (ends : Text.isLineEnd c)
    (final : Final rest)
    : Final ('/' :: '/' :: (body ++ c :: rest)) := by
  obtain ⟨trivia, comment, rfl, closed, last⟩ := final
  exact ⟨_, comment, by simp, .line inside ends closed, last⟩

theorem Final.block {body rest} (inside : BlockBody body) (final : Final rest)
    : Final ('/' :: '*' :: (body ++ '*' :: '/' :: rest)) := by
  obtain ⟨trivia, comment, rfl, closed, last⟩ := final
  exact ⟨_, comment, by simp, .block inside closed, last⟩

-----------------------------------------------------------------------------------------
-- Comments are passed over as a whole
-----------------------------------------------------------------------------------------

/-- Outside comments a character that starts none is passed over exactly if it is blank. -/
theorem split_between_cons {c rest} (line : ¬['/', '/'] <+: c :: rest)
    (block : ¬['/', '*'] <+: c :: rest)
    : split .between (c :: rest)
      = if isBlank c then (c :: (split .between rest).1, (split .between rest).2)
        else ([], c :: rest) := by
  rw [split]
  · rintro more rfl rfl
    exact line (List.prefix_append ['/', '/'] more)
  · rintro more rfl rfl
    exact block (List.prefix_append ['/', '*'] more)

/-- A line comment takes the whole text if no line end is in it, and else a body with the first
one, by induction on the text.
-/
theorem split_line (text : Text)
    : (LineBody text ∧ split .line text = (text, []))
      ∨ ∃ body c rest,
          text = body ++ c :: rest
          ∧ LineBody body
          ∧ Text.isLineEnd c
          ∧ split .line text
            = (body ++ c :: (split .between rest).1, (split .between rest).2) := by
  induction text with
  | nil => exact Or.inl ⟨by simp [LineBody], by simp [split]⟩
  | cons c more ih =>
      by_cases ends : Text.isLineEnd c
      · exact Or.inr ⟨[], c, more, rfl, by simp [LineBody], ends, by simp [split, ends]⟩
      · have keeps {body} (inside : LineBody body) : LineBody (c :: body) := by
          simpa [LineBody, ends] using inside
        rcases ih with ⟨inside, equal⟩ | ⟨body, d, rest, rfl, inside, closes, equal⟩
        · exact Or.inl ⟨keeps inside, by simp [split, ends, equal]⟩
        · have later : split .line (c :: (body ++ d :: rest))
              = (c :: body ++ d :: (split .between rest).1, (split .between rest).2) := by
            simp [split, ends, equal]
          exact Or.inr ⟨c :: body, d, rest, rfl, keeps inside, closes, later⟩

theorem split_block_cons {c rest} (opens : ¬['*', '/'] <+: c :: rest)
    : split .block (c :: rest) = (c :: (split .block rest).1, (split .block rest).2) := by
  rw [split]
  rintro more rfl rfl
  exact opens (List.prefix_append ['*', '/'] more)

/-- A body grows by a character where no closing mark starts, since a mark inside would start
there or stand in the body before.
-/
theorem BlockBody.cons {c body text} (inside : BlockBody body) (front : body <+: text)
    (opens : ¬['*', '/'] <+: c :: text)
    : BlockBody (c :: body) := by
  intro held
  rcases List.infix_cons_iff.mp held with here | later
  · exact opens (here.trans (List.cons_prefix_cons.mpr ⟨rfl, front⟩))
  · exact inside later

/-- A block comment takes the whole text if no closing mark is in it, and else a body with the
first one, by induction on the text.
-/
theorem split_block (text : Text)
    : (BlockBody text ∧ split .block text = (text, []))
      ∨ ∃ body rest,
          text = body ++ '*' :: '/' :: rest
          ∧ BlockBody body
          ∧ split .block text
            = (body ++ '*' :: '/' :: (split .between rest).1, (split .between rest).2) := by
  induction text with
  | nil => exact Or.inl ⟨by simp [BlockBody], by simp [split]⟩
  | cons c more ih =>
      by_cases closing : ['*', '/'] <+: c :: more
      · obtain ⟨rest, equal⟩ := closing
        cases equal
        exact Or.inr ⟨[], rest, rfl, by simp [BlockBody], by simp [split]⟩
      · rw [split_block_cons closing]
        rcases ih with ⟨inside, equal⟩ | ⟨body, rest, rfl, inside, equal⟩
        · exact Or.inl ⟨inside.cons (List.prefix_refl more) closing, by rw [equal]⟩
        · have front : body <+: body ++ '*' :: '/' :: rest := List.prefix_append _ _
          exact Or.inr ⟨c :: body, rest, rfl, inside.cons front closing, by simp [equal]⟩

-----------------------------------------------------------------------------------------
-- The longest trivia in front of a text
-----------------------------------------------------------------------------------------

/-- A scan outside comments cuts a text into final trivia, which is closed where something
follows it, and the rest. By induction on the length, with each comment passed over whole.
-/
theorem split_between (text : Text)
    : text = (split .between text).1 ++ (split .between text).2
      ∧ Final (split .between text).1
      ∧ ((split .between text).2 ≠ [] → Closed (split .between text).1) := by
  -- The scan recurs on what is left behind a whole comment, not behind its first character.
  by_cases line : ['/', '/'] <+: text
  · obtain ⟨more, rfl⟩ := line
    simp only [List.cons_append, List.nil_append, split]
    rcases split_line more with ⟨inside, equal⟩ | ⟨body, c, rest, rfl, inside, ends, equal⟩
    · simpa [equal] using (Unclosed.line inside).final
    · obtain ⟨source, final, closed⟩ := split_between rest
      simp only [equal]
      refine ⟨by simpa using source, final.line inside ends, ?_⟩
      intro follows
      exact .line inside ends (closed follows)
  by_cases block : ['/', '*'] <+: text
  · obtain ⟨more, rfl⟩ := block
    simp only [List.cons_append, List.nil_append, split]
    rcases split_block more with ⟨inside, equal⟩ | ⟨body, rest, rfl, inside, equal⟩
    · simpa [equal] using (Unclosed.block inside).final
    · obtain ⟨source, final, closed⟩ := split_between rest
      simp only [equal]
      refine ⟨by simpa using source, final.block inside, ?_⟩
      intro follows
      exact .block inside (closed follows)
  cases text with
  | nil => exact ⟨by simp [split], by simpa [split] using Closed.nil.final, by simp [split]⟩
  | cons c rest =>
      rw [split_between_cons line block]
      split
      · next blank =>
        obtain ⟨source, final, closed⟩ := split_between rest
        refine ⟨by simpa using source, final.blank blank, ?_⟩
        intro follows
        exact .blank blank (closed follows)
      · exact ⟨rfl, Closed.nil.final, fun _ => .nil⟩
termination_by text.length
decreasing_by
  all_goals subst_vars
  all_goals simp only [List.length_append, List.length_cons]
  all_goals omega

-----------------------------------------------------------------------------------------
-- Where trivia ends
-----------------------------------------------------------------------------------------

/-- No trivia stands in front of the text: neither a blank nor a comment. -/
structure Absent (text : Text) : Prop where
  blank : Text.Stops isBlank text
  line : ¬['/', '/'] <+: text
  block : ¬['/', '*'] <+: text

theorem Absent.split {text} (absent : Absent text) : split .between text = ([], text) := by
  cases text with
  | nil => simp [Trivia.split]
  | cons c rest =>
      have plain := Text.stops_cons_iff.mp absent.blank
      rw [split_between_cons absent.line absent.block, if_neg (by simp [plain])]

/-- No trivia stands where a scan ends, by induction along its recursion: the rest of a text
begins with the first character outside comments that fits no case before.
-/
theorem split_absent (region : Region) (text : Text) : Absent (split region text).2 := by
  fun_induction split region text with
  | case1 => exact ⟨.nil isBlank, by simp, by simp⟩
  | case5 c rest line block other =>
      refine ⟨Text.stops_cons_iff.mpr (by simpa using other), ?_, ?_⟩
      · rintro ⟨more, equal⟩
        cases equal
        exact line more rfl rfl
      · rintro ⟨more, equal⟩
        cases equal
        exact block more rfl rfl
  | _ => simp_all

/-- A line comment is passed over with the line end behind it, by induction on its body. -/
theorem split_line_append {body : Text} (inside : LineBody body) {c : Char}
    (ends : Text.isLineEnd c) (text : Text)
    : split .line (body ++ c :: text)
      = (body ++ c :: (split .between text).1, (split .between text).2) := by
  induction body with
  | nil => simp [split, ends]
  | cons d more ih =>
      obtain ⟨first, later⟩ := List.forall_mem_cons.mp inside
      simp [split, first, ih later]

/-- A block comment is passed over with its closing mark, by induction on its body. -/
theorem split_block_append {body : Text} (inside : BlockBody body) (text : Text)
    : split .block (body ++ '*' :: '/' :: text)
      = (body ++ '*' :: '/' :: (split .between text).1, (split .between text).2) := by
  induction body with
  | nil => simp [split]
  | cons d more ih =>
      have later : BlockBody more := fun held => inside (List.infix_cons held)
      have opens : ¬['*', '/'] <+: d :: (more ++ '*' :: '/' :: text) := by
        intro mark
        cases more with
        | nil => simp at mark
        | cons e rest =>
            simp only [List.cons_append, List.cons_prefix_cons, List.nil_prefix, and_true] at mark
            obtain ⟨rfl, rfl⟩ := mark
            exact inside (List.prefix_append ['*', '/'] rest).isInfix
      rw [List.cons_append, split_block_cons opens, ih later]
      simp

/-- Closed trivia in front of a text is passed over as a whole, whatever follows it, by induction
on the grammar.
-/
theorem Closed.split_append {trivia} (closed : Closed trivia) (text : Text)
    : split .between (trivia ++ text)
      = (trivia ++ (split .between text).1, (split .between text).2) := by
  induction closed with
  | nil => rfl
  | @blank c rest blank more ih =>
      have slash : c ≠ '/' := by
        rintro rfl
        exact absurd blank (by decide)
      have apart (d : Char) : ¬['/', d] <+: c :: (rest ++ text) := by
        intro comment
        exact slash (List.cons_prefix_cons.mp comment).1.symm
      rw [List.cons_append, split_between_cons (apart '/') (apart '*'), if_pos blank, ih]
      rfl
  | line inside ends more ih =>
      simp [split, split_line_append inside ends, ih]
  | block inside more ih =>
      simp [split, split_block_append inside, ih]

/-- Trivia at the end of a text is passed over whole, also where a comment is cut off, since its body
holds nothing that closes it.
-/
theorem Final.split {text} (final : Final text) : (split .between text).2 = [] := by
  obtain ⟨trivia, comment, rfl, closed, last⟩ := final
  rw [closed.split_append]
  rcases last with rfl | last
  · simp [Trivia.split]
  · cases last with
    | @line body inside =>
        rcases split_line body with ⟨-, equal⟩ | ⟨front, c, rest, rfl, -, ends, -⟩
        · simp [Trivia.split, equal]
        · have other := inside c (List.mem_append_right front List.mem_cons_self)
          rw [ends] at other
          cases other
    | @block body inside =>
        rcases split_block body with ⟨-, equal⟩ | ⟨front, rest, rfl, -, -⟩
        · simp [Trivia.split, equal]
        · have mark : ['*', '/'] <:+: front ++ '*' :: '/' :: rest := ⟨front, rest, by simp⟩
          exact absurd mark inside

end KSharp.Trivia
