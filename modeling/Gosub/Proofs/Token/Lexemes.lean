import Gosub.Program.Basic

/-! The texts that a line can be made of. A text is cut into gaps and lexemes without a character
left over, and each lexeme is forced at its place by its first characters and by what follows it.
Reading a line succeeds exactly on such texts, with exactly these tokens.
-/

namespace Gosub.Lexer

-----------------------------------------------------------------------------------------
-- Lexemes
-----------------------------------------------------------------------------------------

/-- A character that only separates tokens. -/
def Gap (c : Char) : Prop :=
  c ∈ [' ', '\t', '\n', '\r']

instance : DecidablePred Gap :=
  fun c => inferInstanceAs (Decidable (c ∈ _))

/-- A character that ends a word: a gap, a quote, or one that begins a relation or an operator. -/
def Mark (c : Char) : Prop :=
  Gap c ∨ c ∈ ['"', '<', '>'] ∨ ∃ op : Operator, c = op.char

/-- The text is at its end, or goes on with a character of this kind. -/
def EndsOr (kind : Char → Prop) (rest : List Char) : Prop :=
  ∀ c, rest.head? = some c → kind c

/-- The word is as long as it can be, where `rest` follows it, and does not begin with a digit. -/
structure WordBefore (rest : List Char) (word : String) : Prop where
  nonempty : word ≠ ""
  unmarked : ∀ c ∈ word.toList, ¬ Mark c
  noDigit : ∀ c, word.toList.head? = some c → c.isDigit = false
  longest : EndsOr Mark rest

/-- The words that can be reserved. -/
def Reserved (word : String) : Prop :=
  (∃ truth, word = Token.truthSpelling truth) ∨ ∃ keyword : Keyword, word = keyword.spelling

/-- The token is the one that its text is read as, where `rest` follows that text. -/
inductive Forced (rest : List Char) : Token → Prop
  /-- As many digits as there are, and nothing after them that spoils the number. -/
  | number {digits : String} (nonempty : digits ≠ "")
    (digit : ∀ c ∈ digits.toList, c.isDigit = true) (longest : EndsOr (·.isDigit = false) rest)
    (unspoiled : EndsOr (fun c => ¬ (Text.isAlphabetic c = true ∨ c ∈ ['.', '_', '"'])) rest)
    : Forced rest (.number digits)
  | quoted {s : String} (inner : '"' ∉ s.toList) : Forced rest (.quoted s)
  /-- No longer relation begins at the same place. -/
  | relation {r : Relation}
    (longest
      : ∀ other : Relation,
          other.spelling.toList <+: r.spelling.toList ++ rest
          → other.spelling.length ≤ r.spelling.length)
    : Forced rest (.relation r)
  | assign (longest : ∀ other : Relation, ¬ other.spelling.toList <+: '=' :: rest)
    : Forced rest (.operator .assign)
  | operator {op : Operator} (single : op ≠ .assign) : Forced rest (.operator op)
  | truth {b : Bool} (word : WordBefore rest (Token.truthSpelling b)) (ended : EndsOr Gap rest)
    : Forced rest (.truth b)
  | keyword {k : Keyword} (word : WordBefore rest k.spelling) (ended : EndsOr Gap rest)
    : Forced rest (.keyword k)
  | indexed {s : String} (word : WordBefore rest s) (bracket : rest.head? = some '[')
    : Forced rest (.indexed s)
  | name {s : String} (word : WordBefore rest s) (noBracket : rest.head? ≠ some '[')
    (free : EndsOr Gap rest → ¬ Reserved s)
    : Forced rest (.name s)

/-- The text is cut into gaps and the texts of the tokens, each forced at its place, and nothing is
left over. Only a remark takes with it whatever follows, and then it is the last token.
-/
inductive Cut : List Char → List Token → Prop
  | done {gap : List Char} (blank : ∀ c ∈ gap, Gap c) : Cut gap []
  | remark {gap rest : List Char} (blank : ∀ c ∈ gap, Gap c)
    (forced : Forced rest (.keyword .REM))
    : Cut (gap ++ Keyword.REM.spelling.toList ++ rest) [.keyword .REM]
  | token {gap rest : List Char} {token : Token} {tokens : List Token}
    (blank : ∀ c ∈ gap, Gap c) (forced : Forced rest token) (ordinary : token ≠ .keyword .REM)
    (more : Cut rest tokens)
    : Cut (gap ++ token.printed.toList ++ rest) (token :: tokens)

-----------------------------------------------------------------------------------------
-- Classes of characters
-----------------------------------------------------------------------------------------

theorem isGap_iff {c : Char} : isGap c = true ↔ Gap c := by
  simp [isGap, Gap, or_assoc]

theorem ofChar?_eq_some_iff {c : Char} {op : Operator}
    : Operator.ofChar? c = some op ↔ op ≠ .assign ∧ c = op.char := by
  constructor
  · intro found
    unfold Operator.ofChar? at found
    split at found <;> cases found <;> exact ⟨by decide, rfl⟩
  · rintro ⟨single, rfl⟩
    cases op with
    | assign => exact absurd rfl single
    | _ => rfl

theorem startsRelation_iff {c : Char} : startsRelation c = true ↔ c = '=' ∨ c ∈ ['<', '>'] := by
  simp [startsRelation, or_assoc]

theorem endsWord_iff {c : Char} : endsWord c = true ↔ Mark c := by
  simp only [endsWord, Bool.or_eq_true, isGap_iff, startsRelation_iff, Option.isSome_iff_exists,
    ofChar?_eq_some_iff, beq_iff_eq, Mark]
  constructor
  · rintro (((gap | rfl | relation) | rfl) | ⟨op, _, rfl⟩)
    · exact .inl gap
    · exact .inr (.inr ⟨.assign, rfl⟩)
    · exact .inr (.inl (List.mem_cons_of_mem _ relation))
    · exact .inr (.inl List.mem_cons_self)
    · exact .inr (.inr ⟨op, rfl⟩)
  · rintro (gap | quoteOrRelation | ⟨op, rfl⟩)
    · exact .inl (.inl (.inl gap))
    · rcases List.mem_cons.mp quoteOrRelation with rfl | relation
      · exact .inl (.inr rfl)
      · exact .inl (.inl (.inr (.inr relation)))
    · by_cases single : op = .assign
      · exact .inl (.inl (.inr (.inl (congrArg Operator.char single))))
      · exact .inr ⟨op, single, rfl⟩

theorem spoilsNumber_iff {c : Char}
    : spoilsNumber c = true ↔ Text.isAlphabetic c = true ∨ c ∈ ['.', '_', '"'] := by
  simp [spoilsNumber, or_assoc]

/-- The longest run of a class at the front of a text is the only way to cut the text where the run
ends before another character.
-/
theorem span_eq_iff {p : Char → Bool} {cs run rest : List Char}
    : cs.takeWhile p = run ∧ cs.dropWhile p = rest
      ↔ cs = run ++ rest ∧ (∀ c ∈ run, p c = true) ∧ EndsOr (p · = false) rest := by
  constructor
  · rintro ⟨rfl, rfl⟩
    refine ⟨List.takeWhile_append_dropWhile.symm, List.all_eq_true.mp List.all_takeWhile, ?_⟩
    intro c head
    have := List.head?_dropWhile_not p cs
    rw [head] at this
    simpa using this
  · rintro ⟨rfl, inside, ends⟩
    rw [List.takeWhile_append_of_pos inside, List.dropWhile_append_of_pos inside]
    cases rest with
    | nil => simp
    | cons c rest => simp [ends c rfl]

-----------------------------------------------------------------------------------------
-- One lexeme
-----------------------------------------------------------------------------------------

theorem quotedLexeme_eq_ok_iff {cs rest : List Char} {token : Token}
    : quotedLexeme cs = .ok (token, rest)
      ↔ ∃ s, token = .quoted s ∧ '"' ∉ s.toList ∧ cs = s.toList ++ '"' :: rest := by
  have inside {run : List Char} : (∀ c ∈ run, (c != '"') = true) ↔ '"' ∉ run := by
    simp only [bne_iff_ne]
    exact ⟨fun all member => all _ member rfl, fun absent c member same => absent (same ▸ member)⟩
  unfold quotedLexeme
  constructor
  · intro read
    split at read
    · cases read
    · rename_i quote after dropped
      cases read
      obtain ⟨text, unquoted, ends⟩ := span_eq_iff.mp ⟨rfl, dropped⟩
      obtain rfl : quote = '"' := by simpa using ends quote rfl
      refine ⟨_, rfl, ?_, ?_⟩
      · rw [String.toList_ofList]
        exact inside.mp unquoted
      · rw [String.toList_ofList]
        exact text
  · rintro ⟨s, rfl, unquoted, rfl⟩
    have ends : EndsOr (fun c => (c != '"') = false) ('"' :: rest) := by
      intro c head
      simpa using (Option.some.inj head).symm
    obtain ⟨taken, dropped⟩ := span_eq_iff.mpr ⟨rfl, inside.mpr unquoted, ends⟩
    rw [taken, dropped, String.ofList_toList]

theorem numberLexeme_eq_ok_iff {c : Char} {cs rest : List Char} {token : Token}
    : numberLexeme c cs = .ok (token, rest)
      ↔ ∃ run,
          token = .number (String.ofList (c :: run))
          ∧ cs = run ++ rest
          ∧ (∀ d ∈ run, d.isDigit = true)
          ∧ EndsOr (·.isDigit = false) rest
          ∧ EndsOr (spoilsNumber · = false) rest := by
  have spoiled {after : List Char}
      : after.head?.any spoilsNumber = false ↔ EndsOr (spoilsNumber · = false) after := by
    cases after <;> simp [EndsOr]
  unfold numberLexeme
  dsimp only
  constructor
  · intro read
    split at read
    · cases read
    · rename_i unspoiled
      cases read
      obtain ⟨text, inside, ends⟩ := span_eq_iff.mp ⟨rfl, rfl⟩
      exact ⟨_, rfl, text, inside, ends, spoiled.mp (Bool.eq_false_iff.mpr unspoiled)⟩
  · rintro ⟨run, rfl, text, inside, ends, unspoiled⟩
    obtain ⟨taken, dropped⟩ := span_eq_iff.mpr ⟨text, inside, ends⟩
    rw [taken, dropped, spoiled.mpr unspoiled]
    rfl

theorem singleton_prefix_iff {c : Char} {rest : List Char}
    : [c] <+: rest ↔ ∃ after, rest = c :: after := by
  cases rest with
  | nil => simp
  | cons d rest => simp [List.cons_prefix_cons, eq_comm]

/-- A relation or an assignment is as long as it can be, by its seven forms. -/
theorem relationLexeme_forced {c : Char} {cs rest : List Char} {token : Token}
    (first : startsRelation c = true) (read : relationLexeme c cs = (token, rest))
    : c :: cs = token.printed.toList ++ rest ∧ Forced rest token := by
  unfold relationLexeme at read
  split at read
  case h_1 | h_2 | h_3 | h_4 =>
    cases read
    refine ⟨rfl, .relation fun other _ => ?_⟩
    cases other <;> decide
  case h_5 noEqual noGreater =>
    cases read
    refine ⟨rfl, .relation fun other begins => ?_⟩
    cases other <;>
      simp_all [Relation.spelling, List.cons_prefix_cons, singleton_prefix_iff]
  case h_6 noEqual =>
    cases read
    refine ⟨rfl, .relation fun other begins => ?_⟩
    cases other <;>
      simp_all [Relation.spelling, List.cons_prefix_cons, singleton_prefix_iff]
  case h_7 noLess noGreater noEqual _ _ _ =>
    cases read
    obtain rfl : c = '=' := by
      simp only [startsRelation, Bool.or_eq_true, beq_iff_eq] at first
      rcases first with (equal | less) | greater
      · exact equal
      · exact (noLess less).elim
      · exact (noGreater greater).elim
    refine ⟨rfl, .assign fun other begins => ?_⟩
    cases other <;>
      simp_all [Relation.spelling, List.cons_prefix_cons, singleton_prefix_iff]

theorem ofSpelling?_eq_some_iff {word : String} {keyword : Keyword}
    : Keyword.ofSpelling? word = some keyword ↔ word = keyword.spelling := by
  constructor
  · intro found
    unfold Keyword.ofSpelling? at found
    have spelled := List.find?_some found
    exact (beq_iff_eq.mp spelled).symm
  · rintro rfl
    cases keyword <;> rfl

theorem all_isGap_iff {rest : List Char} : rest.head?.all isGap = true ↔ EndsOr Gap rest := by
  cases rest <;> simp [EndsOr, isGap_iff]

theorem wordToken_of_unreserved {word : String} {rest : List Char}
    (free : EndsOr Gap rest → ¬ Reserved word)
    : wordToken word rest = if rest.head? == some '[' then .indexed word else .name word := by
  unfold wordToken
  dsimp only
  split
  · rename_i ended
    have unreserved := free (all_isGap_iff.mp ended)
    have noTrue : ¬ (word == "TRUE") = true := fun same =>
      unreserved (.inl ⟨true, beq_iff_eq.mp same⟩)
    have noFalse : ¬ (word == "FALSE") = true := fun same =>
      unreserved (.inl ⟨false, beq_iff_eq.mp same⟩)
    have noKeyword : Keyword.ofSpelling? word = none := by
      rw [Option.eq_none_iff_forall_ne_some]
      intro keyword found
      exact unreserved (.inr ⟨keyword, ofSpelling?_eq_some_iff.mp found⟩)
    rw [if_neg noTrue, if_neg noFalse, noKeyword]
    rfl
  · rfl

theorem wordToken_truthSpelling {rest : List Char} (ended : EndsOr Gap rest) (b : Bool)
    : wordToken (Token.truthSpelling b) rest = .truth b := by
  unfold wordToken
  rw [if_pos (all_isGap_iff.mpr ended)]
  cases b <;> rfl

theorem wordToken_spelling {rest : List Char} (ended : EndsOr Gap rest) (keyword : Keyword)
    : wordToken keyword.spelling rest = .keyword keyword := by
  unfold wordToken
  rw [if_pos (all_isGap_iff.mpr ended)]
  cases keyword <;> rfl

/-- The token of a word is the word again, and it is forced by what follows. -/
theorem wordToken_forced {word : String} {rest : List Char} (before : WordBefore rest word)
    : (wordToken word rest).printed = word ∧ Forced rest (wordToken word rest) := by
  by_cases reserved : EndsOr Gap rest ∧ Reserved word
  · obtain ⟨ended, ⟨truth, rfl⟩ | ⟨keyword, rfl⟩⟩ := reserved
    · rw [wordToken_truthSpelling ended]
      exact ⟨rfl, .truth before ended⟩
    · rw [wordToken_spelling ended]
      exact ⟨rfl, .keyword before ended⟩
  · have free : EndsOr Gap rest → ¬ Reserved word := fun ended held => reserved ⟨ended, held⟩
    rw [wordToken_of_unreserved free]
    split
    · rename_i bracket
      exact ⟨rfl, .indexed before (beq_iff_eq.mp bracket)⟩
    · rename_i noBracket
      exact ⟨rfl, .name before (by simpa using noBracket) free⟩

theorem wordLexeme_eq_iff {c : Char} {cs rest : List Char} {token : Token}
    : wordLexeme c cs = (token, rest)
      ↔ ∃ run,
          token = wordToken (String.ofList (c :: run)) rest
          ∧ cs = run ++ rest
          ∧ (∀ d ∈ run, ¬ Mark d)
          ∧ EndsOr Mark rest := by
  have inside {d : Char} : (!endsWord d) = true ↔ ¬ Mark d := by
    rw [← endsWord_iff, Bool.not_eq_true', Bool.not_eq_true]
  have ends {d : Char} : (!endsWord d) = false ↔ Mark d := by
    rw [← endsWord_iff, Bool.not_eq_false']
  have span {run after : List Char} := @span_eq_iff (!endsWord ·) cs run after
  simp only [inside, ends] at span
  unfold wordLexeme
  dsimp only
  constructor
  · intro read
    cases read
    exact ⟨_, rfl, span.mp ⟨rfl, rfl⟩⟩
  · rintro ⟨run, rfl, cut⟩
    obtain ⟨taken, dropped⟩ := span.mpr cut
    rw [taken, dropped]

theorem ofList_cons_ne_empty (c : Char) (run : List Char) : String.ofList (c :: run) ≠ "" := by
  intro empty
  have := congrArg String.toList empty
  rw [String.toList_ofList] at this
  cases this

/-- What is read off the front of a text is forced there, by the class of the first character. -/
theorem forced_of_lexeme {c : Char} {cs rest : List Char} {token : Token} (solid : ¬ Gap c)
    (read : lexeme c cs = .ok (token, rest))
    : c :: cs = token.printed.toList ++ rest ∧ Forced rest token := by
  unfold lexeme at read
  split at read
  · rename_i quote
    obtain ⟨s, rfl, inner, rfl⟩ := quotedLexeme_eq_ok_iff.mp read
    obtain rfl : c = '"' := beq_iff_eq.mp quote
    exact ⟨by simp [Token.printed], .quoted inner⟩
  · rename_i noQuote
    split at read
    · rename_i digit
      obtain ⟨run, rfl, rfl, inside, longest, unspoiled⟩ := numberLexeme_eq_ok_iff.mp read
      refine ⟨by simp [Token.printed], .number (ofList_cons_ne_empty c run) ?_ longest ?_⟩
      · rw [String.toList_ofList]
        exact List.forall_mem_cons.mpr ⟨digit, inside⟩
      · intro d head spoils
        rw [← spoilsNumber_iff, unspoiled d head] at spoils
        exact Bool.false_ne_true spoils
    · rename_i noDigit
      split at read
      · rename_i relation
        exact relationLexeme_forced relation (Except.ok.inj read)
      · rename_i noRelation
        split at read
        · rename_i op found
          obtain ⟨single, rfl⟩ := ofChar?_eq_some_iff.mp found
          cases read
          exact ⟨by simp [Token.printed], .operator single⟩
        · rename_i noOperator
          have unmarked : ¬ Mark c := by
            rw [← endsWord_iff]
            simp_all [endsWord, isGap_iff]
          obtain ⟨run, rfl, rfl, inside, longest⟩ := wordLexeme_eq_iff.mp (Except.ok.inj read)
          have before : WordBefore rest (String.ofList (c :: run)) := by
            refine ⟨ofList_cons_ne_empty c run, ?_, ?_, longest⟩
            · rw [String.toList_ofList]
              exact List.forall_mem_cons.mpr ⟨unmarked, inside⟩
            · rw [String.toList_ofList]
              intro d head
              obtain rfl := Option.some.inj head
              exact Bool.eq_false_iff.mpr noDigit
          obtain ⟨printed, forced⟩ := wordToken_forced before
          rw [printed]
          exact ⟨by simp, forced⟩

/-- A word is read as the word that it is. -/
theorem lexeme_of_word {c : Char} {cs rest : List Char} {word : String}
    (before : WordBefore rest word) (text : c :: cs = word.toList ++ rest)
    : lexeme c cs = .ok (wordToken word rest, rest) := by
  obtain ⟨nonempty, unmarked, noDigit, longest⟩ := before
  cases letters : word.toList with
  | nil => exact absurd (String.toList_eq_nil_iff.mp letters) nonempty
  | cons d run =>
      rw [letters] at text unmarked noDigit
      rw [List.cons_append] at text
      obtain ⟨rfl, rfl⟩ := List.cons.inj text
      have first : ¬ Mark c := unmarked c List.mem_cons_self
      have lexed : wordLexeme c (run ++ rest) = (wordToken word rest, rest) := by
        refine wordLexeme_eq_iff.mpr ⟨run, ?_, rfl, ?_, longest⟩
        · rw [← letters, String.ofList_toList]
        · exact fun e member => unmarked e (List.mem_cons_of_mem _ member)
      rw [← endsWord_iff] at first
      simp only [endsWord, Bool.or_eq_true, not_or] at first
      obtain ⟨⟨⟨_, noRelation⟩, noQuote⟩, noOperator⟩ := first
      have none : Operator.ofChar? c = none := by simpa using noOperator
      simp only [lexeme, noRelation, noQuote, noDigit c rfl, none, lexed]
      rfl

theorem lexeme_of_forced {c : Char} {cs rest : List Char} {token : Token}
    (text : c :: cs = token.printed.toList ++ rest) (forced : Forced rest token)
    : lexeme c cs = .ok (token, rest) := by
  cases forced with
  | @number digits nonempty digit longest unspoiled =>
      cases spelled : digits.toList with
      | nil => exact absurd (String.toList_eq_nil_iff.mp spelled) nonempty
      | cons d run =>
          simp only [Token.printed, spelled, List.cons_append] at text
          rw [spelled] at digit
          obtain ⟨rfl, rfl⟩ := List.cons.inj text
          have first : c.isDigit = true := digit c List.mem_cons_self
          have noQuote : (c == '"') = false := by
            rw [beq_eq_false_iff_ne]
            rintro rfl
            cases first
          have lexed : numberLexeme c (run ++ rest) = .ok (.number digits, rest) := by
            refine numberLexeme_eq_ok_iff.mpr ⟨run, ?_, rfl, ?_, longest, ?_⟩
            · rw [← spelled, String.ofList_toList]
            · exact fun e member => digit e (List.mem_cons_of_mem _ member)
            · intro e head
              rw [Bool.eq_false_iff, ne_eq, spoilsNumber_iff]
              exact unspoiled e head
          simp only [lexeme, noQuote, first, lexed]
          rfl
  | @quoted s inner =>
      simp only [Token.printed, String.toList_append] at text
      obtain ⟨rfl, rfl⟩ := List.cons.inj text
      exact quotedLexeme_eq_ok_iff.mpr ⟨s, rfl, inner, by simp⟩
  | @relation r longest =>
      cases r with
      | equal | notEqual | lessEqual | greaterEqual =>
          cases text
          rfl
      | less =>
          obtain ⟨rfl, rfl⟩ : c = '<' ∧ cs = rest := List.cons.inj text
          cases cs with
          | nil => rfl
          | cons d rest =>
              have noEqual : d ≠ '=' := by
                rintro rfl
                exact absurd (longest .lessEqual ⟨rest, rfl⟩) (by decide)
              have noGreater : d ≠ '>' := by
                rintro rfl
                exact absurd (longest .notEqual ⟨rest, rfl⟩) (by decide)
              simp [lexeme, startsRelation, relationLexeme, noEqual, noGreater]
      | greater =>
          obtain ⟨rfl, rfl⟩ : c = '>' ∧ cs = rest := List.cons.inj text
          cases cs with
          | nil => rfl
          | cons d rest =>
              have noEqual : d ≠ '=' := by
                rintro rfl
                exact absurd (longest .greaterEqual ⟨rest, rfl⟩) (by decide)
              simp [lexeme, startsRelation, relationLexeme, noEqual]
  | assign longest =>
      obtain ⟨rfl, rfl⟩ : c = '=' ∧ cs = rest := List.cons.inj text
      cases cs with
      | nil => rfl
      | cons d rest =>
          have noEqual : d ≠ '=' := by
            rintro rfl
            exact longest .equal ⟨rest, rfl⟩
          simp [lexeme, startsRelation, relationLexeme, noEqual]
  | @operator op single =>
      simp only [Token.printed, String.toList_singleton] at text
      obtain ⟨rfl, rfl⟩ := List.cons.inj text
      cases op with
      | assign => exact absurd rfl single
      | _ => rfl
  | truth word ended => rw [lexeme_of_word word text, wordToken_truthSpelling ended]
  | keyword word ended => rw [lexeme_of_word word text, wordToken_spelling ended]
  | @indexed s word bracket =>
      have unended : ¬ EndsOr Gap rest := fun ended => by
        have gap := ended '[' bracket
        simp [Gap] at gap
      rw [lexeme_of_word word text, wordToken_of_unreserved fun ended => absurd ended unended]
      simp [bracket]
  | @name s word noBracket free =>
      rw [lexeme_of_word word text, wordToken_of_unreserved free]
      simp [noBracket]

-----------------------------------------------------------------------------------------
-- Whole texts
-----------------------------------------------------------------------------------------

/-- The text of a token is not empty and does not begin with a gap. -/
theorem Forced.printed_eq_cons {rest : List Char} {token : Token} (forced : Forced rest token)
    : ∃ c run, token.printed.toList = c :: run ∧ ¬ Gap c := by
  have ofWord {word : String} (before : WordBefore rest word)
      : ∃ c run, word.toList = c :: run ∧ ¬ Gap c := by
    cases letters : word.toList with
    | nil => exact absurd (String.toList_eq_nil_iff.mp letters) before.nonempty
    | cons c run =>
        refine ⟨c, run, rfl, fun gap => ?_⟩
        exact before.unmarked c (letters ▸ List.mem_cons_self) (.inl gap)
  cases forced with
  | @number digits nonempty digit =>
      cases spelled : digits.toList with
      | nil => exact absurd (String.toList_eq_nil_iff.mp spelled) nonempty
      | cons c run =>
          refine ⟨c, run, spelled, fun gap => ?_⟩
          have first := digit c (spelled ▸ List.mem_cons_self)
          simp only [Gap, List.mem_cons, List.not_mem_nil, or_false] at gap
          rcases gap with rfl | rfl | rfl | rfl <;> cases first
  | @quoted s => exact ⟨'"', s.toList ++ ['"'], by simp [Token.printed], by decide⟩
  | @relation r => cases r <;> exact ⟨_, _, rfl, by decide⟩
  | assign => exact ⟨'=', [], rfl, by decide⟩
  | @operator op => cases op <;> exact ⟨_, _, rfl, by decide⟩
  | truth word => exact ofWord word
  | keyword word => exact ofWord word
  | indexed word => exact ofWord word
  | name word => exact ofWord word

theorem span_isGap_iff {cs gap rest : List Char}
    : cs.takeWhile isGap = gap ∧ cs.dropWhile isGap = rest
      ↔ cs = gap ++ rest ∧ (∀ c ∈ gap, Gap c) ∧ EndsOr (¬ Gap ·) rest := by
  simp only [span_eq_iff, isGap_iff, ← Bool.not_eq_true]

/-- After a gap, the text of a forced token is read as that token. -/
theorem Forced.read {gap rest : List Char} {token : Token} (blank : ∀ c ∈ gap, Gap c)
    (forced : Forced rest token)
    : ∃ c run,
        (gap ++ token.printed.toList ++ rest).dropWhile isGap = c :: run
        ∧ lexeme c run = .ok (token, rest) := by
  obtain ⟨c, run, printed, solid⟩ := forced.printed_eq_cons
  refine ⟨c, run ++ rest, ?_, lexeme_of_forced (by rw [printed, List.cons_append]) forced⟩
  have ends : EndsOr (¬ Gap ·) (c :: run ++ rest) := by
    intro d head
    obtain rfl := Option.some.inj head
    exact solid
  rw [printed, List.append_assoc]
  exact (span_isGap_iff.mpr ⟨rfl, blank, ends⟩).2

theorem tokens_of_blank {cs : List Char} (skipped : cs.dropWhile isGap = [])
    : tokens cs = .ok [] := by
  fun_cases tokens cs <;> grind

theorem tokens_of_lexeme {cs run rest : List Char} {c : Char} {token : Token}
    (skipped : cs.dropWhile isGap = c :: run) (lexed : lexeme c run = .ok (token, rest))
    : tokens cs
      = if token = .keyword .REM then .ok [token] else (tokens rest).map (token :: ·) := by
  fun_cases tokens cs <;> grind

/-- A text that can be cut is read as its tokens, by induction along the cuts. -/
theorem tokens_of_cut {cs : List Char} {ts : List Token} (cut : Cut cs ts)
    : tokens cs = .ok ts := by
  induction cut with
  | @done gap blank =>
      apply tokens_of_blank
      exact (span_isGap_iff.mpr ⟨(List.append_nil gap).symm, blank, fun _ none => by cases none⟩).2
  | remark blank forced =>
      obtain ⟨c, run, skipped, lexed⟩ := forced.read blank
      exact (tokens_of_lexeme skipped lexed).trans (if_pos rfl)
  | token blank forced ordinary more ih =>
      obtain ⟨c, run, skipped, lexed⟩ := forced.read blank
      rw [tokens_of_lexeme skipped lexed, if_neg ordinary, ih]
      rfl

/-- What is read off a text is a way to cut it, by induction along the reading. -/
theorem cut_of_tokens {cs : List Char} {ts : List Token} (read : tokens cs = .ok ts)
    : Cut cs ts := by
  fun_induction tokens cs generalizing ts with
  | case1 cs skipped =>
      cases read
      obtain ⟨text, blank, _⟩ := span_isGap_iff.mp ⟨rfl, skipped⟩
      rw [text, List.append_nil]
      exact .done blank
  | case2 => cases read
  | case3 cs c run skipped rest lexed =>
      cases read
      obtain ⟨text, blank, ends⟩ := span_isGap_iff.mp ⟨rfl, skipped⟩
      obtain ⟨printed, forced⟩ := forced_of_lexeme (ends c rfl) lexed
      rw [text, printed, ← List.append_assoc]
      exact .remark blank forced
  | case4 cs c run skipped token rest lexed _ ordinary ih =>
      obtain ⟨later, more, rfl⟩ : ∃ later, tokens rest = .ok later ∧ ts = token :: later := by
        cases result : tokens rest with
        | error fault =>
            rw [result] at read
            cases read
        | ok later =>
            rw [result] at read
            exact ⟨later, rfl, (Except.ok.inj read).symm⟩
      obtain ⟨text, blank, ends⟩ := span_isGap_iff.mp ⟨rfl, skipped⟩
      obtain ⟨printed, forced⟩ := forced_of_lexeme (ends c rfl) lexed
      rw [text, printed, ← List.append_assoc]
      exact .token blank forced ordinary (ih more)

theorem kind_of_lexeme {c : Char} {cs : List Char} {fault : Fault}
    (failed : lexeme c cs = .error fault)
    : fault.kind = .lexical := by
  unfold lexeme at failed
  split at failed
  · unfold quotedLexeme at failed
    split at failed <;> cases failed
    rfl
  · split at failed
    · unfold numberLexeme at failed
      dsimp only at failed
      split at failed <;> cases failed
      rfl
    · split at failed
      · cases failed
      · split at failed <;> cases failed

theorem kind_of_tokens {cs : List Char} {fault : Fault} (failed : tokens cs = .error fault)
    : fault.kind = .lexical := by
  fun_induction tokens cs with
  | case1 => cases failed
  | case2 cs c run skipped fault' lexed =>
      cases failed
      exact kind_of_lexeme lexed
  | case3 => cases failed
  | case4 cs c run skipped token rest lexed _ ordinary ih =>
      cases result : tokens rest with
      | error fault' =>
          rw [result] at failed
          cases failed
          exact ih result
      | ok later =>
          rw [result] at failed
          cases failed

end Gosub.Lexer

namespace Gosub

/-- Reading a line succeeds exactly where its text can be cut, and then with the tokens of the cut.
Every other text is refused with a lexical error that is placed on the line.
-/
theorem Line.read_eq_ok_iff_cut (number : Nat) (command : String)
    : (∀ tokens,
        Line.read number command = .ok { number, tokens } ↔ Lexer.Cut command.toList tokens)
      ∧ ((∀ tokens, ¬ Lexer.Cut command.toList tokens)
        → ∃ fault,
            Line.read number command = .error { fault, line := some number }
            ∧ fault.kind = .lexical) := by
  unfold Line.read
  cases result : Lexer.tokens command.toList with
  | ok tokens =>
      have cut := Lexer.cut_of_tokens result
      refine ⟨fun others => ⟨fun same => ?_, fun cut' => ?_⟩, fun uncut => ?_⟩
      · cases same
        exact cut
      · rw [Lexer.tokens_of_cut cut'] at result
        cases result
        rfl
      · exact absurd cut (uncut tokens)
  | error fault =>
      refine ⟨fun tokens => ⟨fun same => ?_, fun cut => ?_⟩, fun _ => ?_⟩
      · cases same
      · rw [Lexer.tokens_of_cut cut] at result
        cases result
      · exact ⟨fault, rfl, Lexer.kind_of_tokens result⟩

end Gosub
