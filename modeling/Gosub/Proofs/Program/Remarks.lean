import Gosub.Proofs.Program.SourceLines
import Gosub.Proofs.Token.Cuts

/-! Remarks in a source. A line that holds a remark under a number of its own stands somewhere in
the table of the program; all other lines stay in their order, and those behind it move on by one
position.
-/

namespace Gosub

-----------------------------------------------------------------------------------------
-- One more line in a source
-----------------------------------------------------------------------------------------

namespace Source

/-- The text of a line with a remark. -/
def remark (number : Nat) (text : String) : String :=
  toString number ++ " REM " ++ text

/-- The second text is the first one with one more line at some place: between whole lines, at the
beginning and at the end included, and at the end also without a line break of its own. Where the
last line of the text has no line break, one is put there first.
-/
inductive Inserted (line : String) : String → String → Prop
  | between {head tail : String} (whole : WholeLines head.toList)
    : Inserted line (head ++ tail) (head ++ line ++ "\n" ++ tail)
  | last {head : String} (whole : WholeLines head.toList) : Inserted line head (head ++ line)
  | ended {source ending extended : String} (ends : ending = "\n" ∨ ending = "\r\n")
    (inserted : Inserted line (source ++ ending) extended)
    : Inserted line source extended

/-- A carriage return at the end of a line leaves the number alone, and the command up to the
carriage return.
-/
theorem divide_concat_return (line : List Char)
    : (divide (line ++ ['\r'])).number = (divide line).number
      ∧ ((divide (line ++ ['\r'])).command.toList = (divide line).command.toList
        ∨ (divide (line ++ ['\r'])).command.toList
          = (divide line).command.toList ++ ['\r']) := by
  have blank : Text.isBlank '\r' = true := by decide
  simp only [divide, String.toList_ofList]
  rw [List.dropWhile_append]
  split
  · next empty => simp [blank, List.isEmpty_iff.mp empty]
  · next filled =>
    generalize line.dropWhile Text.isBlank = trimmed
    rw [List.takeWhile_append, List.dropWhile_append]
    constructor
    · split
      · next all =>
        have whole := List.IsPrefix.eq_of_length (List.takeWhile_prefix (!Text.isBlank ·)) all
        simp [blank, whole]
      · rfl
    · split
      · next empty => simp [blank, List.isEmpty_iff.mp empty]
      · next more =>
        rw [List.tail_append_of_ne_nil (by simpa using more)]
        exact .inr rfl

theorem chomp_cases (line : List Char) : chomp line = line ∨ line = chomp line ++ ['\r'] := by
  unfold chomp
  split
  · next returned => exact .inr (List.dropLast_append_getLast? _ returned).symm
  · exact .inl rfl

/-- Taking a carriage return off the end of a line changes neither its number nor its tokens. -/
theorem divide_chomp (line : List Char)
    : (divide (chomp line)).number = (divide line).number
      ∧ ∀ tokens,
          Lexer.tokens (divide line).command.toList = .ok tokens
          → Lexer.tokens (divide (chomp line)).command.toList = .ok tokens := by
  rcases chomp_cases line with kept | returned
  · rw [kept]
    exact ⟨rfl, fun _ read => read⟩
  · obtain ⟨number, command⟩ := divide_concat_return (chomp line)
    rw [← returned] at number command
    refine ⟨number.symm, fun tokens read => ?_⟩
    rcases command with same | longer
    · rw [← same]
      exact read
    · rw [longer] at read
      exact Lexer.tokens_of_cut ((Lexer.cut_of_tokens read).of_gap_concat (by decide))

theorem divide_remark (number : Nat) (text : String)
    : divide (remark number text).toList = ⟨toString number, "REM " ++ text⟩ := by
  rw [← divide_toString]
  simp [remark]

/-- Whatever follows the word, the tokens of a remark are the word alone. -/
theorem tokens_remark (text : String)
    : Lexer.tokens ("REM " ++ text).toList = .ok [.keyword .REM] := by
  have gap : Lexer.Gap ' ' := by decide
  have spaced {kind : Char → Prop} (space : kind ' ')
      : Lexer.EndsOr kind (' ' :: text.toList) := by
    intro c head
    rw [← Option.some.inj head]
    exact space
  have word : Lexer.WordBefore (' ' :: text.toList) Keyword.REM.spelling := by
    have letters : Keyword.REM.spelling.toList = ['R', 'E', 'M'] := rfl
    refine ⟨by decide, fun c member => ?_, fun c head => ?_, spaced (.inl gap)⟩
    · have unmarked : ['R', 'E', 'M'].all (!Lexer.endsWord ·) = true := rfl
      rw [letters] at member
      rw [← Lexer.endsWord_iff]
      simpa using List.all_eq_true.mp unmarked c member
    · rw [letters] at head
      obtain rfl := Option.some.inj head
      rfl
  have none : ∀ c ∈ [], Lexer.Gap c := by simp
  have written : ("REM " ++ text).toList
      = [] ++ Keyword.REM.spelling.toList ++ ' ' :: text.toList := by
    simp [Keyword.spelling]
  rw [written]
  exact Lexer.tokens_of_cut (.remark none (.keyword word (spaced gap)))

/-- A remark stays one when a carriage return is taken off its end. -/
theorem chomp_remark (number : Nat) (text : String)
    : ∃ text', chomp (remark number text).toList = (remark number text').toList := by
  rcases List.eq_nil_or_concat text.toList with empty | ⟨run, c, spelled⟩
  · refine ⟨text, if_neg ?_⟩
    simp [remark, empty]
  · rw [List.concat_eq_append] at spelled
    unfold chomp
    split
    · exact ⟨String.ofList run, by simp [remark, spelled, ← List.append_assoc]⟩
    · exact ⟨text, rfl⟩

theorem unbroken_remark {number : Nat} {text : String} (unbroken : '\n' ∉ text.toList)
    : '\n' ∉ (remark number text).toList := by
  have digits : '\n' ∉ Nat.toDigits 10 number := by
    intro inside
    cases Decimal.isDigit_of_mem_digitChars inside
  simp [remark, digits, unbroken]

end Source

namespace Program

/-- Another line with the same number and the same tokens may stand at the end of the source lines.
-/
theorem build_concat_congr {raw : List RawLine} {line line' : RawLine} {program : Program}
    (built : build (raw ++ [line]) = .ok program) (number : line'.number = line.number)
    (tokens
      : ∀ tokens,
          Lexer.tokens line.command.toList = .ok tokens
          → Lexer.tokens line'.command.toList = .ok tokens)
    : build (raw ++ [line']) = .ok program := by
  have readable := (build_eq_ok_iff.mp built).readable line (by simp)
  have entered (table : Std.TreeMap Nat Line) : enter table line' = enter table line := by
    unfold enter
    rw [number]
    cases found : lineNumber? line.number with
    | none => rfl
    | some n =>
        obtain ⟨ts, read⟩ := exists_tokens (RawLine.denotes_iff.mpr found) readable
        simp only [Line.read, read, tokens ts read]
  rw [← built]
  simp only [build, List.foldlM_append, List.foldlM_cons, List.foldlM_nil, entered]

/-- A line break behind the last line of a source changes nothing. -/
theorem parse_ended {source ending : String} {program : Program}
    (parsed : parse source = .ok program) (ends : ending = "\n" ∨ ending = "\r\n")
    : parse (source ++ ending) = .ok program := by
  obtain ⟨head, line, text, whole, unbroken⟩ := Source.exists_lastLine source.toList
  have before : Source.rawLines source
      = (Source.textLines head).map Source.divide
        ++ (Source.textLines line).map Source.divide := by
    rw [Source.rawLines, text, Source.textLines_append whole, List.map_append]
  obtain ⟨line', after, kept⟩
      : ∃ line',
          Source.rawLines (source ++ ending)
            = (Source.textLines head).map Source.divide ++ [Source.divide line']
          ∧ (line' = Source.chomp line ∨ line' = line) := by
    have broken {last : List Char} (unbroken : '\n' ∉ last) (written : head ++ (last ++ ['\n'])
        = (source ++ ending).toList)
        : Source.rawLines (source ++ ending)
          = (Source.textLines head).map Source.divide ++ [Source.divide (Source.chomp last)] := by
      rw [Source.rawLines, ← written, Source.textLines_append whole,
        Source.textLines_break unbroken, Source.textLines_nil, List.map_append]
      rfl
    rcases ends with rfl | rfl
    · exact ⟨_, broken unbroken (by simp [text]), .inl rfl⟩
    · have returned : Source.chomp (line ++ ['\r']) = line := by simp [Source.chomp]
      have unbroken' : '\n' ∉ line ++ ['\r'] := by simpa using unbroken
      exact ⟨_, broken unbroken' (by simp [text]), .inr returned⟩
  rw [parse, before] at parsed
  rw [parse, after]
  by_cases empty : line = []
  · subst empty
    have nothing : line' = [] := by simpa [Source.chomp] using kept
    rw [Source.textLines_nil, List.map_nil] at parsed
    rw [← parsed, nothing]
    have unnumbered : ∀ raw ∈ [Source.divide []], ∀ number, ¬ raw.Denotes number := by
      intro raw member number denotes
      rw [List.mem_singleton.mp member] at denotes
      exact denotes.nonempty rfl
    have skipped := build_append_of_unnumbered unnumbered
      ((Source.textLines head).map Source.divide) []
    rwa [List.append_nil] at skipped
  · rw [Source.textLines_single unbroken empty] at parsed
    rcases kept with rfl | rfl
    · obtain ⟨number, tokens⟩ := Source.divide_chomp line
      exact build_concat_congr parsed number tokens
    · exact parsed

-----------------------------------------------------------------------------------------
-- One more line in a table
-----------------------------------------------------------------------------------------

/-- The line that holds nothing but a remark. -/
def remark (number : Nat) : Line :=
  ⟨number, [.keyword .REM]⟩

/-- The second program is the first one with a remark at the position `place`. -/
structure Remarked (program extended : Program) (number place : Nat) : Prop where
  ascending : program.Ascending
  extendedAscending : extended.Ascending
  lines
    : ∃ before after,
        program.lines.toList = before ++ after
        ∧ extended.lines.toList = before ++ remark number :: after
        ∧ before.length = place

/-- The last definitions of all other numbers stay. -/
theorem lastDefinition?_insert {raw : RawLine} {number : Nat} (denotes : raw.Denotes number)
    {before after : List RawLine} (unused : ∀ line ∈ before ++ after, ¬ line.Denotes number)
    (other : Nat)
    : lastDefinition? (before ++ raw :: after) other
      = if other = number then some raw else lastDefinition? (before ++ after) other := by
  by_cases same : other = number
  · subst same
    have none {lines : List RawLine} (absent : ∀ line ∈ lines, ¬ line.Denotes other)
        : lines.filter (·.Denotes other) = [] := by
      simpa using absent
    rw [if_pos rfl, lastDefinition?, List.filter_append, List.filter_cons,
      none fun line member => unused line (List.mem_append_left _ member),
      none fun line member => unused line (List.mem_append_right _ member)]
    simp [denotes]
  · have apart : ¬ raw.Denotes other := fun denotes' => same (denotes.unique denotes')
    simp [same, lastDefinition?, List.filter_append, apart]

/-- The table of the extended source lines holds the remark and the lines of the old table. -/
theorem mem_extended {raw : RawLine} {number : Nat} (denotes : raw.Denotes number)
    (read : Lexer.tokens raw.command.toList = .ok [.keyword .REM])
    {before after : List RawLine} (unused : ∀ line ∈ before ++ after, ¬ line.Denotes number)
    {program extended : Program} (table : Tabulates (before ++ after) program)
    (table' : Tabulates (before ++ raw :: after) extended) (line : Line)
    : line ∈ extended.lines ↔ line = remark number ∨ line ∈ program.lines := by
  rw [table'.defined, table.defined, Defines, lastDefinition?_insert denotes unused]
  by_cases same : line.number = number
  · have undefined : ¬ Defines (before ++ after) line := by
      rintro ⟨definition, last, _⟩
      obtain ⟨inside, denotes'⟩ := denotes_of_lastDefinition? last
      exact unused definition inside (same ▸ denotes')
    simp only [same, if_true, Option.some.injEq, undefined, or_false]
    constructor
    · rintro ⟨_, rfl, read'⟩
      rw [read, Except.ok.injEq] at read'
      rw [remark, ← same, read']
    · rintro rfl
      exact ⟨raw, rfl, read⟩
  · have other : line ≠ remark number := by
      rintro rfl
      exact same rfl
    simp only [same, if_false, other, false_or]
    rfl

/-- A remark under a number that is not used anywhere else gets its own place in the table. -/
theorem exists_remarked {raw : RawLine} {number : Nat} (denotes : raw.Denotes number)
    (read : Lexer.tokens raw.command.toList = .ok [.keyword .REM])
    {before after : List RawLine} (unused : ∀ line ∈ before ++ after, ¬ line.Denotes number)
    {program : Program} (built : build (before ++ after) = .ok program)
    : ∃ extended place,
        build (before ++ raw :: after) = .ok extended
        ∧ program.Remarked extended number place := by
  have table := build_eq_ok_iff.mp built
  rcases build_cases (before ++ raw :: after) with
    ⟨extended, isBuilt, table'⟩ | ⟨error, _, _, line, _, whole, unreadable, _⟩
  · have member := mem_extended denotes read unused table table'
    have inside : remark number ∈ extended.lines.toList := by
      rw [Array.mem_toList_iff, member]
      exact .inl rfl
    obtain ⟨lines, lines', split⟩ := List.append_of_mem inside
    have ordered := table'.ascending
    rw [Ascending, split, List.pairwise_append, List.pairwise_cons] at ordered
    obtain ⟨below, ⟨least, above⟩, across⟩ := ordered
    refine ⟨extended, lines.length, isBuilt, table.ascending, table'.ascending, lines, lines', ?_,
      split, rfl⟩
    refine eq_of_ascending table.ascending ?_ fun line => ?_
    · refine List.pairwise_append.mpr ⟨below, above, fun first inFirst second inSecond => ?_⟩
      exact across first inFirst second (List.mem_cons_of_mem _ inSecond)
    · have listed := member line
      rw [← Array.mem_toList_iff, ← Array.mem_toList_iff, split] at listed
      constructor
      · intro inProgram
        have other : line ≠ remark number := by
          rintro rfl
          obtain ⟨definition, last, _⟩ := (table.defined _).mp (Array.mem_toList_iff.mp inProgram)
          obtain ⟨inside, denotes'⟩ := denotes_of_lastDefinition? last
          exact unused definition inside denotes'
        simpa [other] using listed.mpr (.inr inProgram)
      · intro inLines
        have different : line ≠ remark number := by
          rintro rfl
          rcases List.mem_append.mp inLines with first | second
          · exact Nat.lt_irrefl _ (across _ first _ List.mem_cons_self)
          · exact Nat.lt_irrefl _ (least _ second)
        have either : line ∈ lines ++ remark number :: lines' := by
          simpa [different] using inLines
        exact (listed.mp either).resolve_left different
  · have inside : line ∈ before ++ raw :: after := by simp [whole]
    obtain ⟨_, _, _, unread, _⟩ := id unreadable
    have other : line ≠ raw := by
      rintro rfl
      rw [read] at unread
      cases unread
    have old : line ∈ before ++ after := by simpa [other] using inside
    exact absurd unreadable (table.readable line old error)

/-- A source with one more line is read as its program with a remark, by cases on the place where
the line is inserted.
-/
theorem remarked_of_inserted {source extended text : String} {program : Program} {number : Nat}
    (inserted : Source.Inserted (Source.remark number text) source extended)
    (parsed : parse source = .ok program) (bound : number < 2 ^ 32)
    (unused : ∀ line ∈ program.lines, line.number ≠ number) (unbroken : '\n' ∉ text.toList)
    : ∃ program' place,
        parse extended = .ok program' ∧ program.Remarked program' number place := by
  -- The lines before and after the remark are those of the source.
  have placed {before after : List (List Char)} {source extended : String} (text : String)
      (parsed : parse source = .ok program)
      (lines : Source.textLines source.toList = before ++ after)
      (lines' : Source.textLines extended.toList
        = before ++ (Source.remark number text).toList :: after)
      : ∃ program' place,
          parse extended = .ok program' ∧ program.Remarked program' number place := by
    rw [parse, Source.rawLines, lines, List.map_append] at parsed
    rw [parse, Source.rawLines, lines', List.map_append, List.map_cons, Source.divide_remark]
    refine exists_remarked (Source.denotes_toString bound _) (Source.tokens_remark text) ?_ parsed
    intro raw member denotes
    obtain ⟨line, inside, same⟩ :=
      ((build_eq_ok_iff.mp parsed).exists_number_iff number).mpr ⟨raw, member, denotes⟩
    exact unused line inside same
  have unbroken' : '\n' ∉ (Source.remark number text).toList := Source.unbroken_remark unbroken
  induction inserted with
  | @between head tail whole =>
      obtain ⟨text', chomped⟩ := Source.chomp_remark number text
      have written : (head ++ Source.remark number text ++ "\n" ++ tail).toList
          = head.toList ++ ((Source.remark number text).toList ++ '\n' :: tail.toList) := by
        simp
      have whole' : Source.textLines (head ++ tail).toList
          = Source.textLines head.toList ++ Source.textLines tail.toList := by
        rw [String.toList_append, Source.textLines_append whole]
      refine placed text' parsed whole' ?_
      rw [written, Source.textLines_append whole, Source.textLines_break unbroken', chomped]
  | @last head whole =>
      have filled : (Source.remark number text).toList ≠ [] := by simp [Source.remark]
      refine placed text parsed (List.append_nil _).symm ?_
      rw [String.toList_append, Source.textLines_append whole,
        Source.textLines_single unbroken' filled]
  | ended ends _ ih => exact ih (parse_ended parsed ends)

-----------------------------------------------------------------------------------------
-- Positions
-----------------------------------------------------------------------------------------

/-- Where a position has moved to, when one more line stands at `place`. -/
def shift (place position : Nat) : Nat :=
  if position < place then position else position + 1

theorem shift_succ (place position : Nat)
    : shift place position + 1 = shift place (position + 1)
      ∨ position + 1 = place ∧ shift place position + 1 = place := by
  unfold shift
  split <;> split <;> omega

theorem shift_place (place : Nat) : shift place place = place + 1 :=
  if_neg (Nat.lt_irrefl place)

theorem exists_shift {place position : Nat} (other : position ≠ place)
    : ∃ origin, position = shift place origin := by
  rcases Nat.lt_or_gt_of_ne other with before | after
  · exact ⟨position, (if_pos before).symm⟩
  · refine ⟨position - 1, ?_⟩
    rw [shift, if_neg (by omega)]
    omega

namespace Remarked

variable {program extended : Program} {number place : Nat}
  (remarked : program.Remarked extended number place)
include remarked

theorem line?_place : extended.line? place = some (remark number) := by
  obtain ⟨before, after, _, lines, rfl⟩ := remarked.lines
  rw [line?, ← Array.getElem?_toList, lines]
  simp

theorem line?_shift (position : Nat)
    : extended.line? (shift place position) = program.line? position := by
  obtain ⟨before, after, old, new, rfl⟩ := remarked.lines
  rw [line?, line?, ← Array.getElem?_toList, ← Array.getElem?_toList, old, new, shift]
  split
  · next inside => rw [List.getElem?_append_left inside, List.getElem?_append_left inside]
  · next behind =>
    have below : before.length ≤ position := Nat.le_of_not_lt behind
    rw [List.getElem?_append_right below, List.getElem?_append_right (by omega),
      Nat.succ_sub below, List.getElem?_cons_succ]

/-- Every other number is found where its line has moved to. -/
theorem indexOf?_eq {other : Nat} (different : other ≠ number)
    : extended.indexOf? other = (program.indexOf? other).map (shift place) := by
  ext position
  rw [remarked.extendedAscending.indexOf?_eq_some_iff, Option.map_eq_some_iff]
  constructor
  · rintro ⟨line, found, numbered⟩
    have moved : position ≠ place := by
      rintro rfl
      rw [remarked.line?_place] at found
      cases found
      exact different numbered.symm
    obtain ⟨origin, rfl⟩ := exists_shift moved
    rw [remarked.line?_shift] at found
    exact ⟨origin, remarked.ascending.indexOf?_eq_some_iff.mpr ⟨line, found, numbered⟩, rfl⟩
  · rintro ⟨origin, located, rfl⟩
    rw [remarked.line?_shift]
    exact remarked.ascending.indexOf?_eq_some_iff.mp located

/-- The program itself has no line under the number of the remark. -/
theorem indexOf?_number : program.indexOf? number = none := by
  rw [Option.eq_none_iff_forall_ne_some]
  intro position located
  obtain ⟨line, found, numbered⟩ := remarked.ascending.indexOf?_eq_some_iff.mp located
  rw [← remarked.line?_shift] at found
  have moved := remarked.extendedAscending.indexOf?_eq_some_iff.mpr ⟨line, found, numbered⟩
  have here := remarked.extendedAscending.indexOf?_eq_some_iff.mpr
    ⟨remark number, remarked.line?_place, rfl⟩
  have same : shift place position = place := Option.some.inj (moved.symm.trans here)
  unfold shift at same
  split at same <;> omega

end Remarked

end Program

end Gosub
