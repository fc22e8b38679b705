import Gosub.Fault
import Gosub.Text.Alphabetic

/-!
Cutting the text of a line into tokens. Each token is the longest lexeme of its class at its
place; one character of lookahead decides whether a word is reserved and whether a number is well
formed. A remark takes the rest of its line with it.
-/

namespace Gosub.Lexer

/-- The characters that only separate tokens. -/
def isGap (c : Char) : Bool :=
  c == ' ' || c == '\t' || c == '\n' || c == '\r'

/-- The characters that begin a relation or an assignment. -/
def startsRelation (c : Char) : Bool :=
  c == '=' || c == '<' || c == '>'

/-- The characters that cannot stand in a word. -/
def endsWord (c : Char) : Bool :=
  isGap c || startsRelation c || c == '"' || (Operator.ofChar? c).isSome

/-- The characters that make the digits before them a malformed number. -/
def spoilsNumber (c : Char) : Bool :=
  Text.isAlphabetic c || c == '.' || c == '_' || c == '"'

/-- The quoted text whose opening quote has been read. -/
def quotedLexeme (cs : List Char) : Except Fault (Token × List Char) :=
  match cs.dropWhile (· != '"') with
  | [] => .error .unterminatedText
  | _ :: rest => .ok (.quoted (String.ofList (cs.takeWhile (· != '"'))), rest)

/-- The run of digits that begins with the digit `c`. -/
def numberLexeme (c : Char) (cs : List Char) : Except Fault (Token × List Char) :=
  let rest := cs.dropWhile Char.isDigit
  if rest.head?.any spoilsNumber then .error .malformedNumber
  else .ok (.number (String.ofList (c :: cs.takeWhile Char.isDigit)), rest)

/-- The relation or assignment that begins with `c`; two characters are preferred over one. -/
def relationLexeme (c : Char) (cs : List Char) : Token × List Char :=
  match c, cs with
  | '=', '=' :: rest => (.relation .equal, rest)
  | '<', '=' :: rest => (.relation .lessEqual, rest)
  | '<', '>' :: rest => (.relation .notEqual, rest)
  | '>', '=' :: rest => (.relation .greaterEqual, rest)
  | '<', rest => (.relation .less, rest)
  | '>', rest => (.relation .greater, rest)
  | _, rest => (.operator .assign, rest)

/-- The token that a word is, by what follows it. It can be reserved only at the end of the line
or before a gap; before a bracket it names an array, and otherwise a variable. -/
def wordToken (word : String) (rest : List Char) : Token :=
  let reserved : Option Token :=
    if rest.head?.all isGap then
      if word == "TRUE" then some (.truth true)
      else if word == "FALSE" then some (.truth false)
      else (Keyword.ofSpelling? word).map .keyword
    else none
  reserved.getD (if rest.head? == some '[' then .indexed word else .name word)

/-- The word that begins with the character `c`. -/
def wordLexeme (c : Char) (cs : List Char) : Token × List Char :=
  let rest := cs.dropWhile (!endsWord ·)
  (wordToken (String.ofList (c :: cs.takeWhile (!endsWord ·))) rest, rest)

/-- The token that begins with the character `c`, and the text after it. -/
def lexeme (c : Char) (cs : List Char) : Except Fault (Token × List Char) :=
  if c == '"' then quotedLexeme cs
  else if c.isDigit then numberLexeme c cs
  else if startsRelation c then .ok (relationLexeme c cs)
  else
    match Operator.ofChar? c with
    | some op => .ok (.operator op, cs)
    | none => .ok (wordLexeme c cs)

/-- Dropping a run of characters leaves no more than there were. -/
theorem length_dropWhile_le (p : Char → Bool) (cs : List Char)
    : (cs.dropWhile p).length ≤ cs.length :=
  (List.dropWhile_sublist p).length_le

/-- A relation is read off the front of the text, by its seven forms. -/
theorem length_relationLexeme_le (c : Char) (cs : List Char)
    : (relationLexeme c cs).2.length ≤ cs.length := by
  unfold relationLexeme
  split <;> simp

/-- A lexeme is read off the front of the text, by the class of its first character. -/
theorem lexeme_length_le {c : Char} {cs : List Char} {token : Token} {rest : List Char}
    (read : lexeme c cs = .ok (token, rest))
    : rest.length ≤ cs.length := by
  unfold lexeme at read
  split at read
  · unfold quotedLexeme at read
    split at read
    · cases read
    · rename_i after dropped
      cases read
      have bound := length_dropWhile_le (· != '"') cs
      rw [dropped] at bound
      exact Nat.le_trans (Nat.le_succ _) bound
  · split at read
    · unfold numberLexeme at read
      dsimp only at read
      split at read
      · cases read
      · cases read
        exact length_dropWhile_le _ _
    · split at read
      · have same := Except.ok.inj read
        have bound := length_relationLexeme_le c cs
        rw [same] at bound
        exact bound
      · split at read
        · cases read
          exact Nat.le_refl _
        · cases read
          exact length_dropWhile_le _ _

/-- Reading a gap and the lexeme after it leaves a shorter text. -/
theorem length_after_lexeme {cs : List Char} {c : Char} {rest : List Char} {token : Token}
    {after : List Char} (skipped : cs.dropWhile isGap = c :: rest)
    (read : lexeme c rest = .ok (token, after))
    : after.length < cs.length := by
  have bound := length_dropWhile_le isGap cs
  rw [skipped] at bound
  exact Nat.lt_of_lt_of_le (Nat.lt_succ_of_le (lexeme_length_le read)) bound

/-- The tokens of a text. -/
def tokens (cs : List Char) : Except Fault (List Token) :=
  match skipped : cs.dropWhile isGap with
  | [] => .ok []
  | c :: rest =>
    match read : lexeme c rest with
    | .error fault => .error fault
    | .ok (token, after) =>
      have := length_after_lexeme skipped read
      if token = .keyword .REM then .ok [token]
      else (tokens after).map (token :: ·)
termination_by cs.length

end Gosub.Lexer
