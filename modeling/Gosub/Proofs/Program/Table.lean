import Gosub.Program.Basic
import Gosub.Proofs.Number.ReadBack
import Gosub.Proofs.Token.Lexemes
import Mathlib.Data.List.Pairwise

/-! The table of a program. Building keeps the last definition of every number, in ascending order
of the numbers, or fails with the first numbered line that cannot be read; binary search in the
table finds what a search line by line would find.
-/

namespace Gosub

-----------------------------------------------------------------------------------------
-- Numbered lines of source
-----------------------------------------------------------------------------------------

namespace RawLine

/-- The first word of the source line is made of ASCII digits alone, and it denotes this number,
which is small enough to be a line number.
-/
structure Denotes (raw : RawLine) (number : Nat) : Prop where
  nonempty : raw.number ≠ ""
  digits : ∀ c ∈ raw.number.toList, c.isDigit = true
  value : Nat.ofDigitChars 10 raw.number.toList 0 = number
  bound : number < 2 ^ 32

theorem denotes_iff {raw : RawLine} {number : Nat}
    : raw.Denotes number ↔ lineNumber? raw.number = some number := by
  have nonempty : raw.number.toList = [] ↔ raw.number = "" := String.toList_eq_nil_iff
  unfold lineNumber?
  dsimp only
  rw [Decimal.natOfDigits_eq]
  constructor
  · rintro ⟨filled, digits, rfl, bound⟩
    have isDigits : Decimal.isDigits raw.number.toList = true := by
      simpa [Decimal.isDigits, nonempty, filled] using digits
    rw [if_pos isDigits]
    exact if_pos bound
  · intro found
    split at found
    · next isDigits =>
      split at found
      · next bound =>
        cases found
        simp only [Decimal.isDigits, Bool.and_eq_true, List.all_eq_true, Bool.not_eq_true',
          List.isEmpty_eq_false_iff, ne_eq, nonempty] at isDigits
        exact ⟨isDigits.1, isDigits.2, rfl, bound⟩
      · cases found
    · cases found

instance (raw : RawLine) (number : Nat) : Decidable (raw.Denotes number) :=
  decidable_of_iff _ denotes_iff.symm

theorem Denotes.unique {raw : RawLine} {number other : Nat} (denotes : raw.Denotes number)
    (denotes' : raw.Denotes other)
    : other = number :=
  denotes'.value.symm.trans denotes.value

/-- The source line is numbered and its command cannot be read; the error is placed on its number.
-/
def Unreadable (raw : RawLine) (error : Error) : Prop :=
  ∃ number fault,
    raw.Denotes number
    ∧ Lexer.tokens raw.command.toList = .error fault
    ∧ error = { fault, line := some number }

theorem Unreadable.unique {raw : RawLine} {error error' : Error}
    (unreadable : raw.Unreadable error) (unreadable' : raw.Unreadable error')
    : error' = error := by
  obtain ⟨number, fault, denotes, unread, rfl⟩ := unreadable
  obtain ⟨number', fault', denotes', unread', rfl⟩ := unreadable'
  rw [unread] at unread'
  cases unread'
  rw [denotes.unique denotes']

end RawLine

namespace Program

/-- The first of the source lines that are numbered and cannot be read. -/
def FirstUnreadable (raw : List RawLine) (error : Error) : Prop :=
  ∃ before line after,
    raw = before ++ line :: after
    ∧ line.Unreadable error
    ∧ ∀ earlier ∈ before, ∀ error, ¬ earlier.Unreadable error

/-- The last source line that denotes a number. -/
def lastDefinition? (raw : List RawLine) (number : Nat) : Option RawLine :=
  (raw.filter (·.Denotes number)).getLast?

/-- The last definition of the line's number is read as the tokens of the line. -/
def Defines (raw : List RawLine) (line : Line) : Prop :=
  ∃ definition,
    lastDefinition? raw line.number = some definition
    ∧ Lexer.tokens definition.command.toList = .ok line.tokens

/-- The numbers of the lines are strictly ascending. -/
def Ascending (program : Program) : Prop :=
  program.lines.toList.Pairwise (·.number < ·.number)

/-- The program is the table of the source lines: every numbered one can be read, and the lines are
the last definitions of their numbers, in ascending order.
-/
structure Tabulates (raw : List RawLine) (program : Program) : Prop where
  readable : ∀ line ∈ raw, ∀ error, ¬ line.Unreadable error
  ascending : program.Ascending
  defined : ∀ line, line ∈ program.lines ↔ Defines raw line

theorem lastDefinition?_concat (raw : List RawLine) (line : RawLine) (number : Nat)
    : lastDefinition? (raw ++ [line]) number
      = if line.Denotes number then some line else lastDefinition? raw number := by
  unfold lastDefinition?
  rw [List.filter_append]
  split
  · next denotes => simp [denotes]
  · next other => simp [other]

theorem denotes_of_lastDefinition? {raw : List RawLine} {number : Nat} {definition : RawLine}
    (last : lastDefinition? raw number = some definition)
    : definition ∈ raw ∧ definition.Denotes number := by
  have member := List.mem_of_getLast? last
  simpa using member

theorem exists_lastDefinition? {raw : List RawLine} {line : RawLine} {number : Nat}
    (member : line ∈ raw) (denotes : line.Denotes number)
    : ∃ definition, lastDefinition? raw number = some definition := by
  have filled : raw.filter (·.Denotes number) ≠ [] := by
    intro none
    have inside : line ∈ raw.filter (·.Denotes number) := by simp [member, denotes]
    rw [none] at inside
    cases inside
  exact ⟨_, List.getLast?_eq_some_getLast filled⟩

/-- A numbered line that is not unreadable has tokens. -/
theorem exists_tokens {line : RawLine} {number : Nat} (denotes : line.Denotes number)
    (readable : ∀ error, ¬ line.Unreadable error)
    : ∃ tokens, Lexer.tokens line.command.toList = .ok tokens := by
  cases read : Lexer.tokens line.command.toList with
  | ok tokens => exact ⟨tokens, rfl⟩
  | error fault => exact absurd ⟨number, fault, denotes, read, rfl⟩ (readable _)

-----------------------------------------------------------------------------------------
-- Entering lines one after another
-----------------------------------------------------------------------------------------

/-- What is in the table after these source lines: under every number, the line of its last
definition.
-/
structure Records (raw : List RawLine) (table : Std.TreeMap Nat Line) : Prop where
  readable : ∀ line ∈ raw, ∀ error, ¬ line.Unreadable error
  entries : ∀ number line, table[number]? = some line ↔ line.number = number ∧ Defines raw line

theorem Records.empty : Records [] ∅ where
  readable := by simp
  entries := by simp [Defines, lastDefinition?]

/-- Entering a source line records it, unless it is numbered and cannot be read. -/
theorem Records.enter {raw : List RawLine} {table : Std.TreeMap Nat Line}
    (records : Records raw table) (line : RawLine)
    : (∃ table', enter table line = .ok table' ∧ Records (raw ++ [line]) table')
      ∨ ∃ error, enter table line = .error error ∧ line.Unreadable error := by
  have appended (readable : ∀ error, ¬ line.Unreadable error)
      : ∀ other ∈ raw ++ [line], ∀ error, ¬ other.Unreadable error := by
    intro other member
    rcases List.mem_append.mp member with earlier | last
    · exact records.readable other earlier
    · exact List.mem_singleton.mp last ▸ readable
  cases number : lineNumber? line.number with
  | none =>
      have unnumbered (n : Nat) : ¬ line.Denotes n := by simp [RawLine.denotes_iff, number]
      refine .inl ⟨table, by simp [Program.enter, number], appended ?_, ?_⟩
      · rintro error ⟨n, _, denotes, _⟩
        exact unnumbered n denotes
      · intro n other
        simp only [records.entries, Defines, lastDefinition?_concat, unnumbered, if_false]
  | some n =>
      have denotes : line.Denotes n := RawLine.denotes_iff.mpr number
      cases read : Lexer.tokens line.command.toList with
      | error fault =>
          refine .inr ⟨{ fault, line := some n }, ?_, n, fault, denotes, read, rfl⟩
          simp [Program.enter, number, Line.read, read, Except.map]
      | ok tokens =>
          refine .inl ⟨table.insert n ⟨n, tokens⟩, ?_, appended ?_, ?_⟩
          · simp [Program.enter, number, Line.read, read, Except.map]
          · rintro error ⟨_, fault, _, unread, _⟩
            rw [read] at unread
            cases unread
          · intro m other
            rw [Std.TreeMap.getElem?_insert]
            simp only [Nat.compare_eq_eq]
            split
            · next same =>
              subst same
              constructor
              · rintro ⟨⟩
                exact ⟨rfl, line, by simp [lastDefinition?_concat, denotes], read⟩
              · rintro ⟨rfl, definition, last, read'⟩
                rw [lastDefinition?_concat, if_pos denotes] at last
                cases last
                rw [read] at read'
                cases read'
                rfl
            · next different =>
              rw [records.entries]
              refine and_congr_right fun same => ?_
              have other : ¬ line.Denotes m := fun denotes' => different (denotes'.unique denotes)
              simp only [Defines, lastDefinition?_concat, same, other, if_false]

theorem FirstUnreadable.append {raw : List RawLine} {error : Error}
    (first : FirstUnreadable raw error) (later : List RawLine)
    : FirstUnreadable (raw ++ later) error := by
  obtain ⟨before, line, after, rfl, unreadable, earlier⟩ := first
  exact ⟨before, line, after ++ later, by simp, unreadable, earlier⟩

/-- Entering the source lines one after another records them all, or stops at the first that cannot
be read; by induction on the lines entered so far.
-/
theorem foldlM_enter (raw : List RawLine)
    : (∃ table, raw.foldlM enter ∅ = .ok table ∧ Records raw table)
      ∨ ∃ error, raw.foldlM enter ∅ = .error error ∧ FirstUnreadable raw error := by
  induction raw using List.reverseRecOn with
  | nil => exact .inl ⟨∅, rfl, .empty⟩
  | append_singleton raw line ih =>
      rw [List.foldlM_append]
      rcases ih with ⟨table, entered, records⟩ | ⟨error, failed, first⟩
      · have last : ([line].foldlM enter table) = enter table line := by simp
        rw [entered]
        change
          (∃ table', [line].foldlM enter table = _ ∧ _)
          ∨ ∃ error, [line].foldlM enter table = _ ∧ _
        rw [last]
        refine (records.enter line).imp_right ?_
        rintro ⟨error, failed, unreadable⟩
        exact ⟨error, failed, raw, line, [], rfl, unreadable, records.readable⟩
      · rw [failed]
        exact .inr ⟨error, rfl, first.append [line]⟩

-----------------------------------------------------------------------------------------
-- The lines in order
-----------------------------------------------------------------------------------------

theorem values_eq_map (table : Std.TreeMap Nat Line)
    : table.values = table.toList.map Prod.snd := by
  have folded : table.values = table.foldr (fun _ line lines => line :: lines) [] := rfl
  rw [folded, Std.TreeMap.foldr_eq_foldr_toList]
  induction table.toList <;> simp_all

/-- The values of the table are the program of the source lines. -/
theorem Records.tabulates {raw : List RawLine} {table : Std.TreeMap Nat Line}
    (records : Records raw table)
    : Tabulates raw { lines := table.values.toArray } := by
  refine ⟨records.readable, ?_, fun line => ?_⟩
  · rw [Ascending, values_eq_map, List.pairwise_map]
    refine Std.TreeMap.ordered_keys_toList.imp_of_mem ?_
    intro first second inFirst inSecond less
    have number {entry : Nat × Line} (member : entry ∈ table.toList)
        : entry.2.number = entry.1 :=
      ((records.entries _ _).mp (Std.TreeMap.mem_toList_iff_getElem?_eq_some.mp member)).1
    rw [number inFirst, number inSecond]
    exact Nat.compare_eq_lt.mp less
  · simp only [values_eq_map, List.mem_toArray, List.mem_map, Prod.exists,
      Std.TreeMap.mem_toList_iff_getElem?_eq_some, records.entries, exists_eq_right,
      exists_eq_left']

/-- Two strictly ascending lists with the same members are equal. -/
theorem eq_of_ascending {lines lines' : List Line}
    (ascending : lines.Pairwise (·.number < ·.number))
    (ascending' : lines'.Pairwise (·.number < ·.number))
    (same : ∀ line, line ∈ lines ↔ line ∈ lines')
    : lines = lines' := by
  have asymmetric : Std.Antisymm fun a b : Line => a.number < b.number :=
    ⟨fun a b below above => absurd below (Nat.lt_asymm above)⟩
  have irreflexive : Std.Irrefl fun a b : Line => a.number < b.number :=
    ⟨fun a => Nat.lt_irrefl a.number⟩
  exact ascending.eq_of_mem_iff ascending' fun line => same line

/-- Source lines have one table, since its lines are in ascending order. -/
theorem Tabulates.unique {raw : List RawLine} {program other : Program}
    (table : Tabulates raw program) (table' : Tabulates raw other)
    : program = other := by
  have same := eq_of_ascending table.ascending table'.ascending fun line => by
    rw [Array.mem_toList_iff, Array.mem_toList_iff, table.defined, table'.defined]
  obtain ⟨lines⟩ := program
  obtain ⟨lines'⟩ := other
  exact congrArg Program.mk (Array.toList_inj.mp same)

/-- The numbers of the lines are just those that are denoted. -/
theorem Tabulates.exists_number_iff {raw : List RawLine} {program : Program}
    (table : Tabulates raw program) (number : Nat)
    : (∃ line ∈ program.lines, line.number = number) ↔ ∃ line ∈ raw, line.Denotes number := by
  constructor
  · rintro ⟨line, member, rfl⟩
    obtain ⟨definition, last, _⟩ := (table.defined line).mp member
    exact ⟨definition, denotes_of_lastDefinition? last⟩
  · rintro ⟨line, member, denotes⟩
    obtain ⟨definition, last⟩ := exists_lastDefinition? member denotes
    obtain ⟨inside, denotes'⟩ := denotes_of_lastDefinition? last
    obtain ⟨tokens, read⟩ := exists_tokens denotes' (table.readable definition inside)
    exact ⟨⟨number, tokens⟩, (table.defined _).mpr ⟨definition, last, read⟩, rfl⟩

/-- A line that cannot be read decides its own error. -/
theorem FirstUnreadable.unique {raw : List RawLine} {error error' : Error}
    (first : FirstUnreadable raw error) (first' : FirstUnreadable raw error')
    : error' = error := by
  obtain ⟨before, line, after, whole, unreadable, earlier⟩ := first
  obtain ⟨before', line', after', whole', unreadable', earlier'⟩ := first'
  rcases List.append_eq_append_iff.mp (whole.symm.trans whole') with
    ⟨between, split, rest⟩ | ⟨between, split, rest⟩
  · cases between with
    | nil =>
        obtain ⟨rfl, _⟩ := List.cons.inj rest
        exact unreadable.unique unreadable'
    | cons next between =>
        obtain ⟨rfl, _⟩ := List.cons.inj rest
        exact absurd unreadable (earlier' line (by simp [split]) error)
  · cases between with
    | nil =>
        obtain ⟨rfl, _⟩ := List.cons.inj rest
        exact unreadable.unique unreadable'
    | cons next between =>
        obtain ⟨rfl, _⟩ := List.cons.inj rest
        exact absurd unreadable' (earlier line' (by simp [split]) error')

/-- Either the source lines have a table, which is built, or one of them cannot be read, and the
first of these decides the error.
-/
theorem build_cases (raw : List RawLine)
    : (∃ program, build raw = .ok program ∧ Tabulates raw program)
      ∨ ∃ error, build raw = .error error ∧ FirstUnreadable raw error := by
  unfold build
  rcases foldlM_enter raw with ⟨table, entered, records⟩ | ⟨error, failed, first⟩
  · exact .inl ⟨_, by rw [entered]; rfl, records.tabulates⟩
  · exact .inr ⟨error, by rw [failed]; rfl, first⟩

theorem build_eq_ok_iff {raw : List RawLine} {program : Program}
    : build raw = .ok program ↔ Tabulates raw program := by
  rcases build_cases raw with ⟨built, isBuilt, table⟩ | ⟨error, failed, first⟩
  · rw [isBuilt, Except.ok.injEq]
    exact ⟨fun same => same ▸ table, table.unique⟩
  · rw [failed]
    refine ⟨nofun, fun table => ?_⟩
    obtain ⟨before, line, after, rfl, unreadable, _⟩ := first
    exact absurd unreadable (table.readable line (by simp) error)

theorem build_eq_error_iff {raw : List RawLine} {error : Error}
    : build raw = .error error ↔ FirstUnreadable raw error := by
  rcases build_cases raw with ⟨built, isBuilt, table⟩ | ⟨failure, failed, first⟩
  · rw [isBuilt]
    refine ⟨nofun, fun first => ?_⟩
    obtain ⟨before, line, after, rfl, unreadable, _⟩ := first
    exact absurd unreadable (table.readable line (by simp) error)
  · rw [failed, Except.error.injEq]
    exact ⟨fun same => same ▸ first, fun first' => first'.unique first⟩

/-- Source lines are refused for a lexical error only. -/
theorem kind_of_build {raw : List RawLine} {error : Error} (failed : build raw = .error error)
    : error.fault.kind = .lexical := by
  obtain ⟨_, _, _, _, ⟨_, _, _, unread, rfl⟩, _⟩ := build_eq_error_iff.mp failed
  exact Lexer.kind_of_tokens unread

-----------------------------------------------------------------------------------------
-- Source lines in another order
-----------------------------------------------------------------------------------------

/-- The table depends only on which source lines denote a number, and in which order. -/
theorem Tabulates.congr {raw raw' : List RawLine} {program : Program}
    (table : Tabulates raw program)
    (same : ∀ number, raw'.filter (·.Denotes number) = raw.filter (·.Denotes number))
    : Tabulates raw' program := by
  refine ⟨?_, table.ascending, fun line => ?_⟩
  · rintro line member error ⟨number, fault, denotes, unread, placed⟩
    have inside : line ∈ raw'.filter (·.Denotes number) := by simp [member, denotes]
    rw [same] at inside
    exact table.readable line (List.mem_of_mem_filter inside) error
      ⟨number, fault, denotes, unread, placed⟩
  · rw [table.defined]
    simp only [Defines, lastDefinition?, same]

/-- Where at most one line denotes a number, the order of the lines does not show in the lines that
denote it.
-/
theorem filter_eq_of_perm {block block' : List RawLine} (reordered : block.Perm block')
    (different : block.Pairwise fun a b => ∀ number, a.Denotes number → ¬ b.Denotes number)
    (number : Nat)
    : block'.filter (·.Denotes number) = block.filter (·.Denotes number) := by
  have moved := reordered.filter (·.Denotes number)
  have apart := different.filter (·.Denotes number)
  have denotes : ∀ line ∈ block.filter (·.Denotes number), line.Denotes number := by simp
  generalize block.filter (·.Denotes number) = kept at moved apart denotes
  match kept with
  | [] => exact moved.symm.eq_nil
  | [line] => exact List.perm_singleton.mp moved.symm
  | first :: second :: rest =>
      have clash := (List.pairwise_cons.mp apart).1 second (by simp) number
      exact absurd (denotes second (by simp)) (clash (denotes first (by simp)))

/-- Source lines without a number can be put in and left out anywhere. -/
theorem build_append_of_unnumbered {skipped : List RawLine}
    (unnumbered : ∀ line ∈ skipped, ∀ number, ¬ line.Denotes number)
    (before after : List RawLine)
    : build (before ++ skipped ++ after) = build (before ++ after) := by
  have passed (table : Std.TreeMap Nat Line) : skipped.foldlM enter table = .ok table := by
    induction skipped with
    | nil => rfl
    | cons line skipped ih =>
        rw [List.forall_mem_cons] at unnumbered
        have none : lineNumber? line.number = none := by
          rw [Option.eq_none_iff_forall_ne_some]
          exact fun number found => unnumbered.1 number (RawLine.denotes_iff.mpr found)
        rw [List.foldlM_cons, enter, none]
        exact ih unnumbered.2
  simp only [build, List.foldlM_append, bind_assoc]
  congr 1
  apply congrArg
  funext table
  rw [passed]
  rfl

-----------------------------------------------------------------------------------------
-- Binary search
-----------------------------------------------------------------------------------------

/-- What a search finds has the number searched for, by induction on the range. -/
theorem line_of_searchBetween {lines : Array Line} {number low high position : Nat}
    (found : searchBetween lines number low high = some position)
    : ∃ line, lines[position]? = some line ∧ line.number = number := by
  fun_induction searchBetween lines number low high with
  | case1 | case5 => cases found
  | case2 low high within middle line located hit =>
      rw [← Option.some.inj found]
      exact ⟨line, located, hit⟩
  | case3 low high within middle line _ _ _ ih => exact ih found
  | case4 low high within middle line _ _ _ ih => exact ih found

theorem Ascending.number_lt_iff {program : Program} (ascending : program.Ascending)
    {position position' : Nat} {line line' : Line} (found : program.lines[position]? = some line)
    (found' : program.lines[position']? = some line')
    : line.number < line'.number ↔ position < position' := by
  have ordered {i j : Nat} {a b : Line} (atI : program.lines[i]? = some a)
      (atJ : program.lines[j]? = some b) (less : i < j)
      : a.number < b.number := by
    rw [← Array.getElem?_toList, List.getElem?_eq_some_iff] at atI atJ
    obtain ⟨_, rfl⟩ := atI
    obtain ⟨bound, rfl⟩ := atJ
    exact List.pairwise_iff_getElem.mp ascending i j _ bound less
  refine ⟨fun less => ?_, ordered found found'⟩
  rcases Nat.lt_trichotomy position position' with before | same | after
  · exact before
  · subst same
    rw [found] at found'
    cases found'
    exact absurd less (Nat.lt_irrefl _)
  · exact absurd less (Nat.lt_asymm (ordered found' found after))

theorem Ascending.eq_of_number {program : Program} (ascending : program.Ascending)
    {line line' : Line} (member : line ∈ program.lines) (member' : line' ∈ program.lines)
    (same : line.number = line'.number)
    : line = line' := by
  obtain ⟨position, found⟩ := Array.mem_iff_getElem?.mp member
  obtain ⟨position', found'⟩ := Array.mem_iff_getElem?.mp member'
  have notBelow := mt (ascending.number_lt_iff found found').mpr
  have notAbove := mt (ascending.number_lt_iff found' found).mpr
  obtain rfl : position = position' := by omega
  rw [found] at found'
  exact Option.some.inj found'

/-- A search finds every line inside its range, by induction on the range: the half that is left out
holds only smaller or only greater numbers.
-/
theorem searchBetween_of_line {program : Program} (ascending : program.Ascending)
    {line : Line} {low high position : Nat} (found : program.lines[position]? = some line)
    (least : low ≤ position) (most : position < high) (inside : high ≤ program.lines.size)
    : searchBetween program.lines line.number low high = some position := by
  generalize searched : line.number = number
  fun_induction searchBetween program.lines number low high with
  | case1 low high within middle missing =>
      have := Array.getElem?_eq_none_iff.mp missing
      omega
  | case2 low high within middle other located hit =>
      have notBelow := mt (ascending.number_lt_iff found located).mpr
      have notAbove := mt (ascending.number_lt_iff located found).mpr
      have same : middle = position := by omega
      rw [same]
  | case3 low high within middle other located miss below ih =>
      have order := (ascending.number_lt_iff located found).mp (searched ▸ below)
      exact ih (by omega) most inside
  | case4 low high within middle other located miss notBelow ih =>
      have order := (ascending.number_lt_iff found located).mp (by omega)
      exact ih least order (by omega)
  | case5 low high empty => omega

/-- The binary search agrees with a search line by line. -/
theorem Ascending.indexOf?_eq_some_iff {program : Program} (ascending : program.Ascending)
    {number position : Nat}
    : program.indexOf? number = some position
      ↔ ∃ line, program.line? position = some line ∧ line.number = number := by
  refine ⟨line_of_searchBetween, ?_⟩
  rintro ⟨line, found, rfl⟩
  obtain ⟨inside, _⟩ := Array.getElem?_eq_some_iff.mp found
  exact searchBetween_of_line ascending found (Nat.zero_le _) inside (Nat.le_refl _)

/-- Building is the table of the last definitions. It fails exactly where a numbered source line
cannot be read, with the lexical error of the first such line. Otherwise the program holds, in
strictly ascending order, just the numbers that are denoted, each with the tokens of the last line
that denotes it, and positions are found by number. So neither the order of lines with different
numbers matters, in whatever way they are moved past each other, nor any line without a number.
-/
theorem build_table (raw : List RawLine)
    : (∀ error,
        build raw = .error error ↔ FirstUnreadable raw error)
      ∧ (∀ error, build raw = .error error → error.fault.kind = .lexical)
      ∧ (∀ program, build raw = .ok program ↔ Tabulates raw program)
      ∧ (∀ program,
          build raw = .ok program
          → (∀ number,
              (∃ line ∈ program.lines, line.number = number)
              ↔ ∃ line ∈ raw, line.Denotes number)
            ∧ (∀ number position,
                program.indexOf? number = some position
                ↔ ∃ line, program.line? position = some line ∧ line.number = number)
            ∧ (∀ raw',
                (∀ number,
                  raw'.filter (·.Denotes number) = raw.filter (·.Denotes number))
                → build raw' = .ok program)
            ∧ ∀ before block block' after,
                raw = before ++ block ++ after
                → block.Perm block'
                → block.Pairwise (fun a b => ∀ number, a.Denotes number → ¬ b.Denotes number)
                → build (before ++ block' ++ after) = .ok program)
      ∧ ∀ before skipped after,
          raw = before ++ after
          → (∀ line ∈ skipped, ∀ number, ¬ line.Denotes number)
          → build (before ++ skipped ++ after) = build raw := by
  refine ⟨fun error => build_eq_error_iff, fun error => kind_of_build,
    fun program => build_eq_ok_iff, ?_, ?_⟩
  · intro program built
    have table := build_eq_ok_iff.mp built
    refine ⟨table.exists_number_iff, fun _ _ => table.ascending.indexOf?_eq_some_iff,
      fun raw' same => build_eq_ok_iff.mpr (table.congr same), ?_⟩
    rintro before block block' after rfl reordered different
    refine build_eq_ok_iff.mpr (table.congr fun number => ?_)
    simp only [List.filter_append, filter_eq_of_perm reordered different number]
  · rintro before skipped after rfl unnumbered
    exact build_append_of_unnumbered unnumbered before after

end Program

end Gosub
