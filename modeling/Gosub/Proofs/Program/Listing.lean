import Gosub.Proofs.Program.SourceLines
import Gosub.Proofs.Token.Cuts

/-! Listings. A listing sets its tokens apart by spaces, so that a word which another token was
joined to stands alone when the listing is read again, and may then be reserved. Reading a listing
gives the program in which every word stands alone, and nothing else is changed.
-/

namespace Gosub

-----------------------------------------------------------------------------------------
-- Words that stand alone
-----------------------------------------------------------------------------------------

/-- The token of a word that stands alone. -/
def Token.ofWord (word : String) : Token :=
  if word = truthSpelling true then .truth true
  else if word = truthSpelling false then .truth false
  else
    match Keyword.ofSpelling? word with
    | some k => .keyword k
    | none => .name word

/-- The token as it is read where it stands alone. -/
def Token.normal : Token → Token
  | .name s | .indexed s => ofWord s
  | token => token

/-- The tokens up to the first remark, with that remark. -/
def Token.throughRemark : List Token → List Token
  | [] => []
  | token :: later =>
      if token = .keyword .REM then [token] else token :: throughRemark later

/-- The line with every word standing alone; what follows a remark is left out. -/
def Line.normal (line : Line) : Line where
  number := line.number
  tokens := Token.throughRemark (line.tokens.map Token.normal)

/-- The program with every word standing alone. -/
def Program.normal (program : Program) : Program where
  lines := program.lines.map Line.normal

/-- The lines of the program as they stand in a listing, one under the other. -/
def Program.listing (program : Program) : String :=
  "\n".intercalate (program.lines.toList.map Line.printed)

namespace Token

/-- A word that stands alone is a truth value, a keyword, or else the name that it spells. -/
theorem ofWord_cases (word : String)
    : (∃ b, word = truthSpelling b ∧ ofWord word = .truth b)
      ∨ (∃ keyword : Keyword, word = keyword.spelling ∧ ofWord word = .keyword keyword)
      ∨ (¬ Lexer.Reserved word ∧ ofWord word = .name word) := by
  unfold ofWord
  split
  · next spelled => exact .inl ⟨true, spelled, rfl⟩
  · next noTrue =>
    split
    · next spelled => exact .inl ⟨false, spelled, rfl⟩
    · next noFalse =>
      split
      · next keyword found =>
        exact .inr (.inl ⟨keyword, Lexer.ofSpelling?_eq_some_iff.mp found, rfl⟩)
      · next notFound =>
        refine .inr (.inr ⟨?_, rfl⟩)
        rintro (⟨b, rfl⟩ | ⟨keyword, rfl⟩)
        · cases b
          · exact noFalse rfl
          · exact noTrue rfl
        · rw [Lexer.ofSpelling?_eq_some_iff.mpr rfl] at notFound
          cases notFound

theorem printed_ofWord (word : String) : (ofWord word).printed = word := by
  rcases ofWord_cases word with ⟨b, rfl, same⟩ | ⟨keyword, rfl, same⟩ | ⟨_, same⟩ <;>
    rw [same] <;> rfl

theorem printed_normal (token : Token) : token.normal.printed = token.printed := by
  cases token with
  | name s => exact printed_ofWord s
  | indexed s => exact printed_ofWord s
  | _ => rfl

/-- The token is read the same where it stands alone: it is no array name, and no name that is
reserved.
-/
def Plain (token : Token) : Prop :=
  ∀ s, token ≠ .indexed s ∧ (Lexer.Reserved s → token ≠ .name s)

theorem plain_normal (token : Token) : token.normal.Plain := by
  have ofWord (word : String) : (ofWord word).Plain := by
    rcases ofWord_cases word with ⟨b, _, same⟩ | ⟨keyword, _, same⟩ | ⟨free, same⟩
    all_goals rw [same]
    · exact fun s => ⟨nofun, fun _ => nofun⟩
    · exact fun s => ⟨nofun, fun _ => nofun⟩
    · refine fun s => ⟨nofun, fun reserved named => ?_⟩
      cases named
      exact free reserved
  cases token with
  | name s => exact ofWord s
  | indexed s => exact ofWord s
  | _ => exact fun s => ⟨nofun, fun _ => nofun⟩

theorem Plain.normal_eq {token : Token} (plain : token.Plain) : token.normal = token := by
  cases token with
  | name s =>
      rcases ofWord_cases s with ⟨b, spelled, _⟩ | ⟨keyword, spelled, _⟩ | ⟨_, same⟩
      · exact absurd rfl ((plain s).2 (.inl ⟨b, spelled⟩))
      · exact absurd rfl ((plain s).2 (.inr ⟨keyword, spelled⟩))
      · exact same
  | indexed s => exact absurd rfl (plain s).1
  | _ => rfl

theorem throughRemark_sublist (tokens : List Token) : (throughRemark tokens).Sublist tokens := by
  induction tokens with
  | nil => exact .slnil
  | cons token later ih =>
      unfold throughRemark
      split
      · exact List.singleton_sublist.mpr List.mem_cons_self
      · exact ih.cons_cons token

theorem throughRemark_eq_self {tokens : List Token}
    (unremarked : .keyword .REM ∉ throughRemark tokens)
    : throughRemark tokens = tokens := by
  induction tokens with
  | nil => rfl
  | cons token later ih =>
      unfold throughRemark at unremarked ⊢
      split at unremarked
      · next remark => exact absurd (List.mem_singleton.mpr remark.symm) unremarked
      · next ordinary =>
        rw [if_neg ordinary, ih fun member => unremarked (List.mem_cons_of_mem token member)]

theorem eq_of_normal_eq_operator {token : Token} {op : Operator}
    (same : token.normal = .operator op)
    : token = .operator op := by
  have noOperator (word : String) : ofWord word ≠ .operator op := by
    rcases ofWord_cases word with ⟨b, _, spelled⟩ | ⟨keyword, _, spelled⟩ | ⟨_, spelled⟩
    all_goals
      rw [spelled]
      nofun
  cases token with
  | name s => exact absurd same (noOperator s)
  | indexed s => exact absurd same (noOperator s)
  | _ => exact same

end Token

-----------------------------------------------------------------------------------------
-- Reading a listing
-----------------------------------------------------------------------------------------

namespace Lexer

/-- The tokens of a cut end with their first remark, if there is one. -/
theorem Cut.throughRemark_eq {cs : List Char} {ts : List Token} (cut : Cut cs ts)
    : Token.throughRemark ts = ts := by
  induction cut with
  | done => rfl
  | remark => exact if_pos rfl
  | token blank forced ordinary more ih => rw [Token.throughRemark, if_neg ordinary, ih]

/-- A space or the end of the text follows. -/
def Spaced (after : List Char) : Prop :=
  EndsOr (· = ' ') after

theorem Spaced.ends {after : List Char} (spaced : Spaced after) {kind : Char → Prop}
    (space : kind ' ')
    : EndsOr kind after := by
  intro c head
  rw [spaced c head]
  exact space

/-- A text without a space that begins here has ended when the space comes. -/
theorem Spaced.prefix_of_prefix {after : List Char} (spaced : Spaced after) {text : List Char}
    (unspaced : ' ' ∉ text) {read : List Char} (begins : text <+: read ++ after)
    : text <+: read := by
  induction read generalizing text with
  | nil =>
      cases text with
      | nil => exact List.prefix_rfl
      | cons c text =>
          obtain ⟨more, rfl⟩ := begins
          exact absurd (spaced c rfl ▸ List.mem_cons_self) unspaced
  | cons d read ih =>
      cases text with
      | nil => exact List.nil_prefix
      | cons c text =>
          obtain ⟨rfl, more⟩ := List.cons_prefix_cons.mp begins
          have unspaced' : ' ' ∉ text := fun inside => unspaced (List.mem_cons_of_mem _ inside)
          exact List.cons_prefix_cons.mpr ⟨rfl, ih unspaced' more⟩

theorem unspaced_spelling (r : Relation) : ' ' ∉ r.spelling.toList := by
  cases r <;> decide

/-- A token that is forced in some text is forced before a space in its normal form. -/
theorem Forced.normal {rest after : List Char} {token : Token} (forced : Forced rest token)
    (spaced : Spaced after)
    : Forced after token.normal := by
  have ended : EndsOr Gap after := spaced.ends (by decide)
  have word {s : String} (before : WordBefore rest s) : WordBefore after s :=
    ⟨before.nonempty, before.unmarked, before.noDigit, spaced.ends (.inl (by decide))⟩
  have ofWord {s : String} (before : WordBefore rest s) : Forced after (Token.ofWord s) := by
    rcases Token.ofWord_cases s with ⟨b, rfl, same⟩ | ⟨keyword, rfl, same⟩ | ⟨free, same⟩
    all_goals rw [same]
    · exact .truth (word before) ended
    · exact .keyword (word before) ended
    · refine .name (word before) (fun bracket => ?_) fun _ => free
      exact absurd (spaced '[' bracket) (by decide)
  cases forced with
  | number nonempty digit longest unspoiled =>
      exact .number nonempty digit (spaced.ends (by decide)) (spaced.ends (by decide))
  | quoted inner => exact .quoted inner
  | relation longest =>
      refine .relation fun other begins => ?_
      exact (spaced.prefix_of_prefix (unspaced_spelling other) begins).length_le
  | assign longest =>
      refine .assign fun other begins => ?_
      rw [← List.singleton_append] at begins
      have short := spaced.prefix_of_prefix (unspaced_spelling other) begins
      cases other <;> simp [Relation.spelling] at short
  | operator single => exact .operator single
  | truth before => exact .truth (word before) ended
  | keyword before => exact .keyword (word before) ended
  | indexed before => exact ofWord before
  | name before => exact ofWord before

theorem toList_listing_cons_cons (token next : Token) (later : List Token)
    : (Token.listing (token :: next :: later)).toList
      = token.printed.toList ++ ' ' :: (Token.listing (next :: later)).toList := by
  simp [Token.listing, String.toList_intercalate]

/-- A token is read in its normal form before a space, and a remark ends the tokens. -/
theorem Forced.cut {rest after : List Char} {token : Token} {later : List Token}
    (forced : Forced rest token) (spaced : Spaced after)
    (more : Cut after (Token.throughRemark later))
    : Cut (token.printed.toList ++ after) (Token.throughRemark (token.normal :: later)) := by
  have apart := forced.normal spaced
  have none : ∀ c ∈ [], Gap c := by simp
  rw [← token.printed_normal]
  unfold Token.throughRemark
  split
  · next remark =>
    rw [remark] at apart ⊢
    exact .remark none apart
  · next ordinary => exact .token none apart ordinary more

/-- The listing of tokens is cut into their normal forms, by induction on the tokens: each is
followed by a space or by the end of the listing.
-/
theorem cut_listing {ts : List Token} (forced : ∀ token ∈ ts, ∃ rest, Forced rest token)
    : Cut (Token.listing ts).toList (Token.throughRemark (ts.map Token.normal)) := by
  induction ts with
  | nil => exact .done (by simp [Token.listing])
  | cons token later ih =>
      rw [List.forall_mem_cons] at forced
      obtain ⟨⟨rest, first⟩, others⟩ := forced
      cases later with
      | nil =>
          have alone : (Token.listing [token]).toList = token.printed.toList ++ [] := by
            simp [Token.listing]
          rw [alone]
          exact first.cut nofun (.done (by simp))
      | cons next later =>
          rw [toList_listing_cons_cons]
          have spaced : Spaced (' ' :: (Token.listing (next :: later)).toList) :=
            fun c head => (Option.some.inj head).symm
          exact first.cut spaced (.gap_cons (by decide) (ih others))

end Lexer

-----------------------------------------------------------------------------------------
-- Listed programs
-----------------------------------------------------------------------------------------

namespace Line

/-- The line as it is read from a listing. -/
def listed (line : Line) : RawLine where
  number := toString line.number
  command := Token.listing line.tokens

theorem divide_printed (line : Line) : Source.divide line.printed.toList = line.listed :=
  Source.divide_toString line.number (Token.listing line.tokens)

/-- The characters of a listing are spaces and the characters of its tokens. -/
theorem mem_listing {ts : List Token} {c : Char} (inside : c ∈ (Token.listing ts).toList)
    : c = ' ' ∨ ∃ token ∈ ts, c ∈ token.printed.toList := by
  induction ts with
  | nil => simp [Token.listing] at inside
  | cons token later ih =>
      cases later with
      | nil => exact .inr ⟨token, by simpa [Token.listing] using inside⟩
      | cons next later =>
          rw [Lexer.toList_listing_cons_cons] at inside
          rcases List.mem_append.mp inside with first | others
          · exact .inr ⟨token, List.mem_cons_self, first⟩
          · rcases List.mem_cons.mp others with space | further
            · exact .inl space
            · refine (ih further).imp_right ?_
              rintro ⟨other, member, inOther⟩
              exact ⟨other, List.mem_cons_of_mem _ member, inOther⟩

/-- A printed line holds no line break. -/
theorem unbroken_printed {line : Line} {cs : List Char} (unbroken : '\n' ∉ cs)
    (cut : Lexer.Cut cs line.tokens)
    : '\n' ∉ line.printed.toList := by
  intro inside
  simp only [printed, String.toList_append, List.mem_append] at inside
  rcases inside with (digit | space) | command
  · rw [Source.toList_toString] at digit
    cases Decimal.isDigit_of_mem_digitChars digit
  · exact absurd space (by decide)
  · rcases mem_listing command with same | ⟨token, member, inToken⟩
    · cases same
    · exact unbroken (cut.mem_of_mem_printed member inToken)

/-- After a space, a listing does not end with a carriage return, since none of its tokens does. -/
theorem unreturned_listing {ts : List Token}
    (forced : ∀ token ∈ ts, ∃ rest, Lexer.Forced rest token)
    : (' ' :: (Token.listing ts).toList).getLast? ≠ some '\r' := by
  induction ts with
  | nil => simp [Token.listing]
  | cons token later ih =>
      rw [List.forall_mem_cons] at forced
      obtain ⟨⟨rest, first⟩, others⟩ := forced
      cases later with
      | nil =>
          obtain ⟨run, c, spelled, solid⟩ := first.printed_eq_concat
          have alone : ' ' :: (Token.listing [token]).toList = (' ' :: run) ++ [c] := by
            simpa [Token.listing] using spelled
          rw [alone, List.getLast?_concat]
          rintro ⟨⟩
          exact solid (by decide)
      | cons next later =>
          rw [Lexer.toList_listing_cons_cons, ← List.cons_append, List.getLast?_append_of_ne_nil]
          · exact ih others
          · exact List.cons_ne_nil _ _

theorem unreturned_printed {line : Line} {cs : List Char} (cut : Lexer.Cut cs line.tokens)
    : line.printed.toList.getLast? ≠ some '\r' := by
  have spaced : line.printed.toList
      = (toString line.number).toList ++ ' ' :: (Token.listing line.tokens).toList := by
    simp [printed]
  rw [spaced, List.getLast?_append_of_ne_nil]
  · exact unreturned_listing fun _ => cut.forced_of_mem
  · exact List.cons_ne_nil _ _

/-- A listed line is read in its normal form. -/
theorem tokens_listed {line : Line} {cs : List Char} (cut : Lexer.Cut cs line.tokens)
    : Lexer.tokens line.listed.command.toList = .ok line.normal.tokens :=
  Lexer.tokens_of_cut (Lexer.cut_listing fun _ => cut.forced_of_mem)

/-- A line that has been read is in normal form just if its tokens are read the same where they
stand alone.
-/
theorem normal_eq_iff {line : Line} {cs : List Char} (cut : Lexer.Cut cs line.tokens)
    : line.normal = line ↔ ∀ token ∈ line.tokens, token.Plain := by
  obtain ⟨number, tokens⟩ := line
  simp only [normal, mk.injEq, true_and]
  constructor
  · intro same token member
    rw [← same] at member
    obtain ⟨origin, _, rfl⟩ := List.mem_map.mp ((Token.throughRemark_sublist _).mem member)
    exact origin.plain_normal
  · intro plain
    have mapped : tokens.map Token.normal = tokens :=
      (List.map_congr_left fun token member => (plain token member).normal_eq).trans
        (List.map_id tokens)
    rw [mapped, cut.throughRemark_eq]

end Line

namespace Program

/-- The source lines of a listing are the lines of the program as they are listed. -/
theorem rawLines_listing {program : Program}
    (cut : ∀ line ∈ program.lines, ∃ cs, '\n' ∉ cs ∧ Lexer.Cut cs line.tokens)
    : Source.rawLines program.listing = program.lines.toList.map Line.listed := by
  have printed {kind : List Char → Prop}
      (holds : ∀ line ∈ program.lines, kind line.printed.toList)
      : ∀ text ∈ (program.lines.toList.map Line.printed).map String.toList, kind text := by
    simpa using holds
  have lines : Source.textLines program.listing.toList
      = (program.lines.toList.map Line.printed).map String.toList := by
    rw [listing, String.toList_intercalate]
    refine Source.textLines_intercalate (printed ?_) (printed ?_) (printed ?_)
    · intro line member
      obtain ⟨cs, unbroken, ofLine⟩ := cut line member
      exact Line.unbroken_printed unbroken ofLine
    · intro line member
      obtain ⟨cs, _, ofLine⟩ := cut line member
      exact Line.unreturned_printed ofLine
    · intro line _
      simp [Line.printed]
  rw [Source.rawLines, lines, List.map_map, List.map_map]
  exact List.map_congr_left fun line _ => line.divide_printed

/-- The listed lines of a program have its normal form as their table. -/
theorem tabulates_listed {program : Program} (ascending : program.Ascending)
    (bound : ∀ line ∈ program.lines, line.number < 2 ^ 32)
    (cut : ∀ line ∈ program.lines, ∃ cs, Lexer.Cut cs line.tokens)
    : Tabulates (program.lines.toList.map Line.listed) program.normal := by
  have denotes {line : Line} (member : line ∈ program.lines)
      : line.listed.Denotes line.number :=
    Source.denotes_toString (bound line member) _
  have read {line : Line} (member : line ∈ program.lines)
      : Lexer.tokens line.listed.command.toList = .ok line.normal.tokens := by
    obtain ⟨cs, ofLine⟩ := cut line member
    exact Line.tokens_listed ofLine
  -- A definition of a number is the listed line of that number.
  have definition {number : Nat} {definition : RawLine}
      (last : lastDefinition? (program.lines.toList.map Line.listed) number = some definition)
      : ∃ line ∈ program.lines, line.number = number ∧ definition = line.listed := by
    obtain ⟨inside, denotes'⟩ := denotes_of_lastDefinition? last
    obtain ⟨line, member, rfl⟩ := List.mem_map.mp inside
    rw [Array.mem_toList_iff] at member
    exact ⟨line, member, denotes'.unique (denotes member), rfl⟩
  refine ⟨?_, ?_, fun line => ?_⟩
  · intro raw inside error
    obtain ⟨line, member, rfl⟩ := List.mem_map.mp inside
    rintro ⟨_, _, _, unread, _⟩
    rw [read (Array.mem_toList_iff.mp member)] at unread
    cases unread
  · unfold Ascending normal
    rw [Array.toList_map, List.pairwise_map]
    exact ascending
  · simp only [normal, Array.mem_map]
    constructor
    · rintro ⟨line, member, rfl⟩
      have inside : line.listed ∈ program.lines.toList.map Line.listed :=
        List.mem_map_of_mem (Array.mem_toList_iff.mpr member)
      obtain ⟨last, isLast⟩ := exists_lastDefinition? inside (denotes member)
      obtain ⟨other, member', same, rfl⟩ := definition isLast
      obtain rfl := ascending.eq_of_number member' member same
      exact ⟨_, isLast, read member⟩
    · rintro ⟨last, isLast, tokens⟩
      obtain ⟨origin, member, same, rfl⟩ := definition isLast
      rw [read member, Except.ok.injEq] at tokens
      refine ⟨origin, member, ?_⟩
      calc
        origin.normal = ⟨origin.number, origin.normal.tokens⟩ := rfl
        _ = line := by rw [same, tokens]

theorem parse_listing_eq {source : String} {program : Program}
    (parsed : parse source = .ok program)
    : parse program.listing = .ok program.normal := by
  have ascending := (build_eq_ok_iff.mp parsed).ascending
  rw [parse, rawLines_listing fun line member => (cut_of_parse parsed member).2, build_eq_ok_iff]
  refine tabulates_listed ascending (fun line member => (cut_of_parse parsed member).1) ?_
  intro line member
  obtain ⟨_, cs, _, cut⟩ := cut_of_parse parsed member
  exact ⟨cs, cut⟩

theorem normal_eq_iff_plain {source : String} {program : Program}
    (parsed : parse source = .ok program)
    : program.normal = program ↔ ∀ line ∈ program.lines, ∀ token ∈ line.tokens, token.Plain := by
  have fixed : program.normal = program ↔ ∀ line ∈ program.lines, line.normal = line := by
    obtain ⟨lines⟩ := program
    have mapped : lines.map Line.normal = lines.map id ↔ ∀ line ∈ lines, line.normal = line :=
      Array.map_inj_left
    rw [Array.map_id] at mapped
    simpa [normal] using mapped
  rw [fixed]
  refine forall₂_congr fun line member => ?_
  obtain ⟨_, cs, _, cut⟩ := cut_of_parse parsed member
  exact Line.normal_eq_iff cut

/-- A listing is read as the normal form of its program: words that name variables or arrays become
what they are where they stand alone, and what follows a remark is gone. So a program is read back
from its listing just if it holds no array name and no name that is reserved, and the listing of
what was read is read as the same program.
-/
theorem parse_listing {source : String} {program : Program} (parsed : parse source = .ok program)
    : parse program.listing = .ok program.normal
      ∧ program.normal.lines.map (·.number) = program.lines.map (·.number)
      ∧ (parse program.listing = .ok program
        ↔ ∀ line ∈ program.lines,
            (∀ s, .indexed s ∉ line.tokens)
            ∧ ∀ s, Lexer.Reserved s → .name s ∉ line.tokens)
      ∧ parse program.normal.listing = .ok program.normal := by
  have listed := parse_listing_eq parsed
  refine ⟨listed, ?_, ?_, ?_⟩
  · simp [normal, Line.normal]
  · rw [listed, Except.ok.injEq, normal_eq_iff_plain parsed]
    refine forall₂_congr fun line _ => ⟨fun plain => ⟨?_, ?_⟩, ?_⟩
    · exact fun s member => (plain _ member s).1 rfl
    · exact fun s reserved member => (plain _ member s).2 reserved rfl
    · rintro ⟨noArray, noReserved⟩ token member s
      exact ⟨fun same => noArray s (same ▸ member),
        fun reserved same => noReserved s reserved (same ▸ member)⟩
  · rw [parse_listing_eq listed, Except.ok.injEq, normal_eq_iff_plain listed]
    intro line member token inside
    obtain ⟨origin, _, rfl⟩ := Array.mem_map.mp member
    obtain ⟨token, _, rfl⟩ := List.mem_map.mp ((Token.throughRemark_sublist _).mem inside)
    exact token.plain_normal

/-- Witness: joined to a bracket, `TRUE` names an array and `REM` a variable. In the listing both
stand alone, so that one is read as a truth value and the other begins a remark.
-/
theorem parse_listing_joined_words
    : ∃ program,
        parse "20 REM(1)\n10 PRINT TRUE[0]" = .ok program
        ∧ program.listing = "10 PRINT TRUE [ 0 ]\n20 REM ( 1 )"
        ∧ parse program.listing = .ok program.normal
        ∧ program.normal.lines.map Line.tokens
          = #[[.keyword .PRINT, .truth true, .operator .leftBracket, .number "0",
                .operator .rightBracket],
              [.keyword .REM]] := by
  have parsed : parse "20 REM(1)\n10 PRINT TRUE[0]"
      = .ok
          { lines :=
              #[⟨10, [.keyword .PRINT, .indexed "TRUE", .operator .leftBracket, .number "0",
                  .operator .rightBracket]⟩,
                ⟨20, [.name "REM", .operator .leftParen, .number "1",
                  .operator .rightParen]⟩] } := by
    cbv
  exact ⟨_, parsed, by cbv, (parse_listing parsed).1, by cbv⟩

end Program

end Gosub
