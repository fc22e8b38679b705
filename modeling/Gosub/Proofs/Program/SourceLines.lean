import Gosub.Proofs.Program.Table

/-! Source texts line by line. A text falls apart at its line breaks, wherever it is cut between
whole lines, and a line that is written as a number, a blank and a command is divided into these.
-/

namespace Gosub

namespace Source

-----------------------------------------------------------------------------------------
-- Line breaks
-----------------------------------------------------------------------------------------

/-- The text is made of whole lines: nothing is left over after its last line break. -/
def WholeLines (cs : List Char) : Prop :=
  cs = [] ∨ cs.getLast? = some '\n'

theorem span_break {line : List Char} (unbroken : '\n' ∉ line) (rest : List Char)
    : (line ++ '\n' :: rest).takeWhile (· != '\n') = line
      ∧ (line ++ '\n' :: rest).dropWhile (· != '\n') = '\n' :: rest := by
  refine Lexer.span_eq_iff.mpr ⟨rfl, fun c member => ?_, fun c head => ?_⟩
  · simpa using fun same : c = '\n' => unbroken (same ▸ member)
  · simpa using (Option.some.inj head).symm

theorem textLines_nil : textLines [] = [] := by
  rw [textLines]
  rfl

/-- The first line of a text ends at its first line break. -/
theorem textLines_break {line : List Char} (unbroken : '\n' ∉ line) (rest : List Char)
    : textLines (line ++ '\n' :: rest) = chomp line :: textLines rest := by
  obtain ⟨taken, dropped⟩ := span_break unbroken rest
  rw [textLines]
  split
  · next none => simp [dropped] at none
  · next more =>
    rw [dropped] at more
    cases more
    rw [taken]

theorem textLines_single {line : List Char} (unbroken : '\n' ∉ line) (filled : line ≠ [])
    : textLines line = [line] := by
  have dropped : line.dropWhile (· != '\n') = [] :=
    List.dropWhile_eq_nil_iff.mpr fun c member => by
      simpa using fun same : c = '\n' => unbroken (same ▸ member)
  rw [textLines]
  split
  · simp [filled]
  · next more =>
    rw [dropped] at more
    cases more

/-- Lines are read off a text from its first line break on, so what holds of texts without a break
and passes from the rest of a text to the text holds of all texts.
-/
theorem linesInduction {motive : List Char → Prop}
    (last : ∀ line, '\n' ∉ line → motive line)
    (broken : ∀ line rest, '\n' ∉ line → motive rest → motive (line ++ '\n' :: rest))
    (cs : List Char)
    : motive cs := by
  induction length : cs.length using Nat.strongRecOn generalizing cs with
  | ind n ih =>
      by_cases inside : '\n' ∈ cs
      · obtain ⟨line, rest, rfl, unbroken⟩ := List.eq_append_cons_of_mem inside
        refine broken line rest unbroken (ih rest.length ?_ rest rfl)
        rw [← length, List.length_append, List.length_cons]
        omega
      · exact last cs inside

/-- The lines of a text hold no line breaks. -/
theorem unbroken_of_mem_textLines {cs line : List Char} (member : line ∈ textLines cs)
    : '\n' ∉ line := by
  induction cs using linesInduction with
  | last whole unbroken =>
      rcases List.eq_nil_or_concat whole with rfl | ⟨_, _, filled⟩
      · rw [textLines_nil] at member
        cases member
      · rw [textLines_single unbroken (by simp [filled])] at member
        rwa [List.mem_singleton.mp member]
  | broken first rest unbroken ih =>
      rw [textLines_break unbroken] at member
      rcases List.mem_cons.mp member with rfl | later
      · intro inside
        unfold chomp at inside
        split at inside
        · exact unbroken (List.mem_of_mem_dropLast inside)
        · exact unbroken inside
      · exact ih later

theorem WholeLines.of_break {line rest : List Char} (whole : WholeLines (line ++ '\n' :: rest))
    : WholeLines rest := by
  cases rest with
  | nil => exact .inl rfl
  | cons c rest =>
      refine .inr ?_
      simpa [WholeLines, List.getLast?_append] using whole

/-- A text that is cut between whole lines has the lines of both parts. -/
theorem textLines_append {head : List Char} (whole : WholeLines head) (tail : List Char)
    : textLines (head ++ tail) = textLines head ++ textLines tail := by
  induction head using linesInduction with
  | last line unbroken =>
      rcases whole with rfl | broken
      · rw [textLines_nil, List.nil_append, List.nil_append]
      · exact absurd (List.mem_of_getLast? broken) unbroken
  | broken line rest unbroken ih =>
      rw [List.append_assoc, List.cons_append, textLines_break unbroken, textLines_break unbroken,
        ih whole.of_break, List.cons_append]

/-- Every text is made of whole lines and a last line, which may be empty. -/
theorem exists_lastLine (cs : List Char)
    : ∃ head line, cs = head ++ line ∧ WholeLines head ∧ '\n' ∉ line := by
  induction cs using linesInduction with
  | last line unbroken => exact ⟨[], line, rfl, .inl rfl, unbroken⟩
  | broken first rest unbroken ih =>
      obtain ⟨head, line, rfl, whole, last⟩ := ih
      refine ⟨first ++ '\n' :: head, line, by simp, .inr ?_, last⟩
      rcases whole with rfl | ended
      · simp
      · simp [List.getLast?_append, List.getLast?_cons, ended]

/-- Lines that hold no line break and do not end in a carriage return are read back from their text.
The last line must not be empty, because there would be nothing to read.
-/
theorem textLines_intercalate {lines : List (List Char)} (unbroken : ∀ line ∈ lines, '\n' ∉ line)
    (unreturned : ∀ line ∈ lines, line.getLast? ≠ some '\r')
    (filled : ∀ line ∈ lines, line ≠ [])
    : textLines (['\n'].intercalate lines) = lines := by
  induction lines with
  | nil => exact textLines_nil
  | cons line lines ih =>
      rw [List.forall_mem_cons] at unbroken unreturned filled
      cases lines with
      | nil =>
          have single : ['\n'].intercalate [line] = line := by simp [List.intercalate]
          rw [single, textLines_single unbroken.1 filled.1]
      | cons next lines =>
          have kept : chomp line = line := if_neg unreturned.1
          rw [List.intercalate_cons_cons, List.append_assoc, List.singleton_append,
            textLines_break unbroken.1, kept, ih unbroken.2 unreturned.2 filled.2]

-----------------------------------------------------------------------------------------
-- Number and command
-----------------------------------------------------------------------------------------

theorem isBlank_of_isDigit {c : Char} (digit : c.isDigit = true) : Text.isBlank c = false := by
  simp only [Char.isDigit, Bool.and_eq_true, decide_eq_true_eq, UInt32.le_iff_toNat_le] at digit
  have least : 48 ≤ c.toNat := digit.1
  have most : c.toNat ≤ 57 := digit.2
  rw [Bool.eq_false_iff]
  simp only [Text.isBlank, Text.Ranges.contains, Text.blankRanges, List.any_cons, List.any_nil,
    Bool.or_eq_true, Bool.and_eq_true, decide_eq_true_eq, ne_eq, Bool.or_false]
  omega

/-- A line is divided at the blank after its number. -/
theorem divide_numbered {digits : List Char} (filled : digits ≠ [])
    (digit : ∀ c ∈ digits, c.isDigit = true) (command : List Char)
    : divide (digits ++ ' ' :: command) = ⟨String.ofList digits, String.ofList command⟩ := by
  have solid : ∀ c ∈ digits, Text.isBlank c = false :=
    fun c member => isBlank_of_isDigit (digit c member)
  have inside : ∀ c ∈ digits, (!Text.isBlank c) = true := by simpa using solid
  have untrimmed
      : (digits ++ ' ' :: command).dropWhile Text.isBlank = digits ++ ' ' :: command := by
    cases digits with
    | nil => exact absurd rfl filled
    | cons c digits => simp [solid c List.mem_cons_self]
  have blank : Text.isBlank ' ' = true := by decide
  have ends : Lexer.EndsOr (fun c => (!Text.isBlank c) = false) (' ' :: command) := by
    intro c head
    obtain rfl := Option.some.inj head
    simp [blank]
  obtain ⟨taken, dropped⟩ := Lexer.span_eq_iff.mpr ⟨rfl, inside, ends⟩
  simp only [divide, untrimmed, taken, dropped, List.tail_cons]

/-- The text of a number is its digits. -/
theorem toList_toString (number : Nat) : (toString number).toList = Decimal.digitChars number := by
  rw [Nat.toString_eq_ofList_toDigits, String.toList_ofList, Decimal.digitChars]

theorem divide_toString (number : Nat) (command : String)
    : divide (toString number ++ " " ++ command).toList = ⟨toString number, command⟩ := by
  have filled : Decimal.digitChars number ≠ [] := Nat.toDigits_ne_nil
  have divided := divide_numbered filled (fun _ => Decimal.isDigit_of_mem_digitChars)
    command.toList
  rw [← toList_toString, String.ofList_toList, String.ofList_toList] at divided
  simpa using divided

/-- A number that is small enough is denoted by its own text. -/
theorem denotes_toString {number : Nat} (bound : number < 2 ^ 32) (command : String)
    : RawLine.Denotes ⟨toString number, command⟩ number where
  nonempty := by
    intro empty
    have none := congrArg String.toList empty
    rw [toList_toString] at none
    exact Nat.toDigits_ne_nil none
  digits := by
    rw [toList_toString]
    exact fun _ => Decimal.isDigit_of_mem_digitChars
  value := by
    rw [toList_toString]
    exact Nat.ofDigitChars_ten_toDigits
  bound := bound

/-- The characters of the command stand in the line. -/
theorem mem_of_mem_command {line : List Char} {c : Char}
    (inside : c ∈ (divide line).command.toList)
    : c ∈ line := by
  simp only [divide, String.toList_ofList] at inside
  have trimmed := (List.dropWhile_sublist (!Text.isBlank ·)).mem (List.mem_of_mem_tail inside)
  exact (List.dropWhile_sublist Text.isBlank).mem trimmed

end Source

/-- The lines of a program that is read from a source are small enough to be numbered, and their
tokens are cut from texts without line breaks.
-/
theorem Program.cut_of_parse {source : String} {program : Program}
    (parsed : parse source = .ok program) {line : Line} (member : line ∈ program.lines)
    : line.number < 2 ^ 32 ∧ ∃ cs, '\n' ∉ cs ∧ Lexer.Cut cs line.tokens := by
  have table := build_eq_ok_iff.mp parsed
  obtain ⟨definition, last, read⟩ := (table.defined line).mp member
  obtain ⟨inside, denotes⟩ := denotes_of_lastDefinition? last
  obtain ⟨text, inText, rfl⟩ := List.mem_map.mp inside
  refine ⟨denotes.bound, _, fun broken => ?_, Lexer.cut_of_tokens read⟩
  exact Source.unbroken_of_mem_textLines inText (Source.mem_of_mem_command broken)

end Gosub
