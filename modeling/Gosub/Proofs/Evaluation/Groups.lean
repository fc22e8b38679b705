import Gosub.Proofs.Evaluation.Brackets
import Mathlib.Algebra.GroupWithZero.Nat
import Mathlib.Logic.Function.Iterate

/-! Index groups by position. The groups after the name of an array take a certain number of tokens,
brackets included. They can be found by a scan that keeps a position and the number of brackets open
there. Each step of the scan ends it or moves it past one token, so that it ends on all tokens, and
it finds what the division into groups finds.
-/

namespace Gosub.Indices

-----------------------------------------------------------------------------------------
-- The tokens that groups take
-----------------------------------------------------------------------------------------

/-- The leading index groups of a token list, and how many of its tokens they take. -/
def measured (tokens : List Token) : Except Fault (List (List Token) × Nat) :=
  (split tokens).map fun (groups, rest) => (groups, tokens.length - rest.length)

section Measured

variable {tokens rest rest' : List Token} {groups groups' : List (List Token)} {used : Nat}
  {fault : Fault}

theorem length_written (groups : List (List Token))
    : (written groups).length = (groups.map List.length).sum + 2 * groups.length := by
  induction groups with
  | nil => rfl
  | cons group groups ih =>
      have begun := congrArg List.length (written_cons_append group groups [])
      simp only [List.append_nil, List.length_append, List.length_cons] at begun
      rw [begun, ih, List.map_cons, List.sum_cons, List.length_cons]
      omega

theorem Leading.unique (leading : Leading tokens groups rest)
    (leading' : Leading tokens groups' rest')
    : groups = groups' ∧ rest = rest' := by
  have same := (split_of_leading leading).symm.trans (split_of_leading leading')
  simpa using same

theorem measured_of_leading (leading : Leading tokens groups rest)
    : measured tokens = .ok (groups, (written groups).length) := by
  have text := congrArg List.length leading.text
  rw [List.length_append] at text
  rw [measured, split_of_leading leading]
  simp only [Except.map, text, Nat.add_sub_cancel]

theorem measured_eq_error_iff : measured tokens = .error fault ↔ Malformed tokens fault := by
  rw [← split_eq_error_iff, measured]
  cases split tokens <;> simp [Except.map]

theorem measured_eq_ok_iff
    : measured tokens = .ok (groups, used)
      ↔ ∃ rest, Leading tokens groups rest ∧ used = (written groups).length := by
  constructor
  · intro found
    rcases split_cases tokens with ⟨groups', rest, -, leading⟩ | ⟨fault, -, malformed⟩
    · rw [measured_of_leading leading] at found
      cases found
      exact ⟨rest, leading, rfl⟩
    · rw [measured_eq_error_iff.mpr malformed] at found
      cases found
  · rintro ⟨rest, leading, rfl⟩
    exact measured_of_leading leading

end Measured

-----------------------------------------------------------------------------------------
-- The first bad group
-----------------------------------------------------------------------------------------

/-- After formed groups, if any, one more bracket opens what is `after` it. -/
def Opens (tokens after : List Token) : Prop :=
  ∃ groups, (∀ group ∈ groups, Formed group) ∧ tokens = written groups ++ opening :: after

/-- No bracket closes a group that starts with these tokens. -/
def Unclosed (after : List Token) : Prop :=
  ∀ group rest, after = group ++ closing :: rest → ¬ Balanced group

section Malformed

variable {tokens after : List Token} {fault : Fault}

theorem unclosed_iff_covered : Unclosed after ↔ Covered 0 after := by
  rw [← close?_eq_none_iff, Option.eq_none_iff_forall_ne_some, Prod.forall]
  refine forall₂_congr fun group rest => ?_
  rw [ne_eq, close?_eq_some_iff, not_and, balanced_iff_closes]

theorem malformed_expectedBracket_iff
    : Malformed tokens .expectedBracket ↔ tokens.head? ≠ some opening := by
  constructor
  · rintro ⟨start⟩
    exact start
  · exact .unopened

theorem malformed_missingBracket_iff
    : Malformed tokens .missingBracket ↔ ∃ after, Opens tokens after ∧ Unclosed after := by
  constructor
  · rintro (_ | ⟨formed, covered⟩)
    exact ⟨_, ⟨_, formed, rfl⟩, unclosed_iff_covered.mpr covered⟩
  · rintro ⟨after, ⟨groups, formed, rfl⟩, unclosed⟩
    exact .unclosed formed (unclosed_iff_covered.mp unclosed)

theorem malformed_emptyIndex_iff
    : Malformed tokens .emptyIndex ↔ ∃ after, Opens tokens (closing :: after) := by
  constructor
  · rintro (_ | _ | ⟨formed⟩)
    exact ⟨_, _, formed, rfl⟩
  · rintro ⟨after, groups, formed, rfl⟩
    exact .empty formed

end Malformed

-----------------------------------------------------------------------------------------
-- A scan by position
-----------------------------------------------------------------------------------------

/-- How far a scan for index groups has come. -/
inductive Scan where
  /-- Behind the groups found so far. -/
  | between (found : List (List Token)) (position : Nat)
  /-- In a further group, with `depth` brackets open. -/
  | inside (found : List (List Token)) (start depth position : Nat)
  | done (outcome : Except Fault (List (List Token) × Nat))

namespace Scan

/-- Looks at the token at the position of the scan. -/
def advance (tokens : List Token) : Scan → Scan
  | between found position =>
    if tokens[position]? = some opening then inside found (position + 1) 1 (position + 1)
    else if found = [] then done (.error .expectedBracket)
    else done (.ok (found, position))
  | inside found start depth position =>
    match tokens[position]? with
    | none => done (.error .missingBracket)
    | some token =>
      if token = opening then inside found start (depth + 1) (position + 1)
      else if token = closing then
        if depth = 1 then
          if start = position then done (.error .emptyIndex)
          else between (found ++ [tokens.extract start position]) (position + 1)
        else inside found start (depth - 1) (position + 1)
      else inside found start depth (position + 1)
  | done outcome => done outcome

variable {tokens group rest : List Token} {token : Token} {found groups : List (List Token)}
  {start depth position : Nat}

theorem token_at (ahead : tokens.drop position = token :: rest)
    : tokens[position]? = some token := by
  rw [← List.head?_drop, ahead, List.head?_cons]

theorem drop_next (ahead : tokens.drop position = token :: rest)
    : tokens.drop (position + 1) = rest := by
  rw [← List.tail_drop, ahead, List.tail_cons]

theorem drop_past {front : List Token} (ahead : tokens.drop position = front ++ rest)
    : tokens.drop (position + front.length) = rest := by
  rw [← List.drop_drop, ahead, List.drop_left]

/-- Inside of a group the scan goes past every token but the one that closes the group, and its
count of the open brackets follows their balance.
-/
theorem advance_inside (ahead : tokens.drop position = token :: rest)
    (stays : token ≠ closing ∨ depth ≠ 0)
    : ∃ depth', (∀ {more}, Covered depth (token :: more) ↔ Covered depth' more)
        ∧ (∀ {more}, Closes depth (token :: more) ↔ Closes depth' more)
        ∧ advance tokens (inside found start (depth + 1) position)
          = inside found start (depth' + 1) (position + 1) := by
  have here := token_at ahead
  by_cases opens : token = opening
  · subst opens
    exact ⟨depth + 1, covered_opening_iff, closes_opening_iff, by simp [advance, here]⟩
  · by_cases closes : token = closing
    · subst closes
      obtain ⟨depth, rfl⟩ := Nat.exists_eq_succ_of_ne_zero (stays.neg_resolve_left rfl)
      exact ⟨depth, covered_closing_iff, closes_closing_iff, by simp [advance, here, opens]⟩
    · exact ⟨depth, covered_other_iff opens closes, closes_other_iff opens closes,
        by simp [advance, here, opens, closes]⟩

/-- The first of covered tokens closes no group. -/
theorem stays_of_covered (covered : Covered depth (token :: rest))
    : token ≠ closing ∨ depth ≠ 0 := by
  by_contra last
  simp only [ne_eq, not_or, not_not] at last
  obtain ⟨rfl, rfl⟩ := last
  exact not_covered_closing covered

/-- A group that nothing closes is scanned to the end of the tokens. -/
theorem advance_unclosed (covered : Covered depth rest) (ahead : tokens.drop position = rest)
    : (advance tokens)^[rest.length + 1] (inside found start (depth + 1) position)
      = done (.error .missingBracket) := by
  induction rest generalizing depth position with
  | nil =>
      have beyond : tokens[position]? = none := by rw [← List.head?_drop, ahead, List.head?_nil]
      simp [advance, beyond]
  | cons token rest ih =>
      obtain ⟨depth', same, -, moved⟩ := advance_inside ahead (stays_of_covered covered)
      rw [List.length_cons, Function.iterate_succ_apply, moved]
      exact ih (same.mp covered) (drop_next ahead)

/-- A group is scanned up to the bracket that closes it. -/
theorem advance_closed (closes : Closes depth group)
    (ahead : tokens.drop position = group ++ closing :: rest)
    : (advance tokens)^[group.length + 1] (inside found start (depth + 1) position)
      = if start = position + group.length then done (.error .emptyIndex)
        else between (found ++ [tokens.extract start (position + group.length)])
          (position + group.length + 1) := by
  induction group generalizing depth position with
  | nil =>
      have here := token_at ahead
      have outermost := closes_nil_iff.mp closes
      have other : closing ≠ opening := by decide
      simp [advance, here, outermost, other]
  | cons token group ih =>
      obtain ⟨depth', -, same, moved⟩ := advance_inside ahead (stays_of_covered closes.1)
      rw [List.length_cons, Function.iterate_succ_apply, moved,
        ih (same.mp closes) (drop_next ahead), Nat.add_right_comm, Nat.add_assoc]

/-- One step for each token of a group and its brackets takes the scan behind the group. -/
theorem advance_group (formed : Formed group)
    (ahead : tokens.drop position = opening :: group ++ closing :: rest)
    : (advance tokens)^[group.length + 2] (between found position)
      = between (found ++ [group]) (position + (group.length + 2)) := by
  have opened : advance tokens (between found position)
      = inside found (position + 1) 1 (position + 1) := by
    rw [advance, if_pos (token_at ahead)]
  have inner : tokens.drop (position + 1) = group ++ closing :: rest := drop_next ahead
  -- The bracket that closes a filled group is not where the group starts.
  have filled : group.length ≠ 0 := mt List.length_eq_zero_iff.mp formed.filled
  have taken : tokens.extract (position + 1) (position + 1 + group.length) = group := by
    rw [List.extract_eq_take_drop, Nat.add_sub_cancel_left, inner, List.take_left]
  rw [Function.iterate_succ_apply, opened,
    advance_closed (balanced_iff_closes.mp formed.balanced) inner, if_neg (by omega), taken]
  congr 1
  omega

/-- The scan passes formed groups, by induction over the groups. -/
theorem advance_groups (formed : ∀ group ∈ groups, Formed group)
    (ahead : tokens.drop position = written groups ++ rest)
    : (advance tokens)^[(written groups).length] (between found position)
      = between (found ++ groups) (position + (written groups).length) := by
  induction groups generalizing found position with
  | nil => simp [written]
  | cons group groups ih =>
      rw [List.forall_mem_cons] at formed
      rw [written_cons_append] at ahead
      have length : (written (group :: groups)).length
          = (written groups).length + (group.length + 2) := by
        simp only [length_written, List.map_cons, List.sum_cons, List.length_cons]
        omega
      have behind : tokens.drop (position + (group.length + 2)) = written groups ++ rest := by
        have whole : tokens.drop position
            = (opening :: group ++ [closing]) ++ (written groups ++ rest) := by
          rw [ahead, List.append_assoc]
          rfl
        simpa using drop_past whole
      rw [length, Function.iterate_add_apply, advance_group formed.1 ahead, ih formed.2 behind,
        List.append_assoc, List.singleton_append]
      congr 1
      omega

theorem advance_leading (formed : ∀ group ∈ groups, Formed group)
    (text : tokens = written groups ++ rest)
    : (advance tokens)^[(written groups).length] (between [] 0)
      = between groups (written groups).length := by
  have start : tokens.drop 0 = written groups ++ rest := text
  rw [advance_groups formed start, List.nil_append, Nat.zero_add]

theorem iterate_of_done {steps more : Nat} {scan : Scan}
    {outcome : Except Fault (List (List Token) × Nat)}
    (ended : (advance tokens)^[steps] scan = done outcome) (within : steps ≤ more)
    : (advance tokens)^[more] scan = done outcome := by
  rw [← Nat.sub_add_cancel within, Function.iterate_add_apply, ended]
  exact Function.iterate_fixed rfl _

theorem ends_of_leading (leading : Leading tokens groups rest)
    : (advance tokens)^[tokens.length + 1] (between [] 0)
      = done (.ok (groups, (written groups).length)) := by
  have behind : tokens[(written groups).length]? ≠ some opening := by
    rw [leading.text, List.getElem?_append_right (Nat.le_refl _), Nat.sub_self,
      ← List.head?_eq_getElem?]
    exact leading.ended
  have last : advance tokens (between groups (written groups).length)
      = done (.ok (groups, (written groups).length)) := by
    rw [advance, if_neg behind, if_neg leading.filled]
  have ended : (advance tokens)^[(written groups).length + 1] (between [] 0)
      = done (.ok (groups, (written groups).length)) := by
    rw [Function.iterate_succ_apply', advance_leading leading.formed leading.text, last]
  refine iterate_of_done ended ?_
  rw [leading.text, List.length_append]
  omega

/-- After formed groups the scan goes into the group that the next bracket opens. -/
theorem advance_opens (formed : ∀ group ∈ groups, Formed group)
    (text : tokens = written groups ++ opening :: rest)
    : (advance tokens)^[(written groups).length + 1] (between [] 0)
        = inside groups ((written groups).length + 1) 1 ((written groups).length + 1)
      ∧ tokens.drop ((written groups).length + 1) = rest := by
  have ahead : tokens.drop (written groups).length = opening :: rest := by
    rw [text, List.drop_left]
  refine ⟨?_, drop_next ahead⟩
  rw [Function.iterate_succ_apply', advance_leading formed text, advance,
    if_pos (token_at ahead)]

theorem ends_of_unopened (start : tokens.head? ≠ some opening)
    : (advance tokens)^[tokens.length + 1] (between [] 0)
      = done (.error .expectedBracket) := by
  have elsewhere : tokens[0]? ≠ some opening := by rwa [← List.head?_eq_getElem?]
  have ended : (advance tokens)^[1] (between [] 0) = done (.error .expectedBracket) := by
    rw [Function.iterate_one, advance, if_neg elsewhere, if_pos rfl]
  exact iterate_of_done ended (Nat.le_add_left 1 _)

theorem ends_of_unclosed (formed : ∀ group ∈ groups, Formed group) (covered : Covered 0 rest)
    (text : tokens = written groups ++ opening :: rest)
    : (advance tokens)^[tokens.length + 1] (between [] 0) = done (.error .missingBracket) := by
  obtain ⟨opened, ahead⟩ := advance_opens formed text
  have steps : tokens.length + 1 = (rest.length + 1) + ((written groups).length + 1) := by
    rw [text, List.length_append, List.length_cons]
    omega
  rw [steps, Function.iterate_add_apply, opened, advance_unclosed covered ahead]

theorem ends_of_empty (formed : ∀ group ∈ groups, Formed group)
    (text : tokens = written groups ++ opening :: closing :: rest)
    : (advance tokens)^[tokens.length + 1] (between [] 0) = done (.error .emptyIndex) := by
  obtain ⟨opened, ahead⟩ := advance_opens formed text
  have ended : (advance tokens)^[1 + ((written groups).length + 1)] (between [] 0)
      = done (.error .emptyIndex) := by
    rw [Function.iterate_add_apply, opened]
    exact (advance_closed (closes_nil_iff.mpr rfl) ahead).trans (if_pos rfl)
  refine iterate_of_done ended ?_
  rw [text, List.length_append, List.length_cons, List.length_cons]
  omega

/-- The scan ends after at most one step for each token and one more, with what the division into
groups finds.
-/
theorem iterate_advance (tokens : List Token)
    : (advance tokens)^[tokens.length + 1] (between [] 0) = done (measured tokens) := by
  rcases split_cases tokens with ⟨groups, rest, -, leading⟩ | ⟨fault, -, malformed⟩
  · rw [ends_of_leading leading, measured_of_leading leading]
  · rw [measured_eq_error_iff.mpr malformed]
    cases malformed with
    | unopened start => exact ends_of_unopened start
    | unclosed formed covered => exact ends_of_unclosed formed covered rfl
    | empty formed => exact ends_of_empty formed rfl

end Scan

-----------------------------------------------------------------------------------------
-- The division into groups
-----------------------------------------------------------------------------------------

/-- Dividing a token list splits off just its leading groups. It finds them where the tokens begin
with formed groups, which are then the only ones, and takes their tokens and two brackets each. It
fails where no bracket opens a first group, or else by whether the first bad group is not closed or
is empty. A scan by position comes to the same end on every token list.
-/
theorem split_leading_groups (tokens : List Token)
    : (∀ groups rest, split tokens = .ok (groups, rest) ↔ Leading tokens groups rest)
      ∧ (∀ groups used,
          measured tokens = .ok (groups, used)
          ↔ ∃ rest, Leading tokens groups rest
              ∧ used = (groups.map List.length).sum + 2 * groups.length)
      ∧ (∀ groups groups' rest rest',
          Leading tokens groups rest → Leading tokens groups' rest'
          → groups = groups' ∧ rest = rest')
      ∧ (split tokens = .error .expectedBracket ↔ tokens.head? ≠ some opening)
      ∧ (split tokens = .error .missingBracket ↔ ∃ after, Opens tokens after ∧ Unclosed after)
      ∧ (split tokens = .error .emptyIndex ↔ ∃ after, Opens tokens (closing :: after))
      ∧ (∀ fault, split tokens = .error fault →
          fault.kind = .arrayForm
          ∧ (fault, fault.detail)
            ∈ [(.expectedBracket, "EXPECTED ["), (.missingBracket, "MISSING ]"),
              (.emptyIndex, "EMPTY INDEX")])
      ∧ (Scan.advance tokens)^[tokens.length + 1] (.between [] 0) = .done (measured tokens) := by
  refine ⟨fun _ _ => split_eq_ok_iff, ?_, fun _ _ _ _ => Leading.unique, ?_, ?_, ?_, ?_,
    Scan.iterate_advance tokens⟩
  · intro groups used
    rw [measured_eq_ok_iff, length_written]
  · rw [split_eq_error_iff, malformed_expectedBracket_iff]
  · rw [split_eq_error_iff, malformed_missingBracket_iff]
  · rw [split_eq_error_iff, malformed_emptyIndex_iff]
  · intro fault failed
    cases split_eq_error_iff.mp failed with
    | unopened => exact ⟨rfl, .head _⟩
    | unclosed => exact ⟨rfl, .tail _ (.head _)⟩
    | empty => exact ⟨rfl, .tail _ (.tail _ (.head _))⟩

/-- The groups of `[A[1]][I + 1] = 4` take eleven tokens, and the bracket of `[1` is missing. -/
theorem split_leading_groups_nested_index
    : let first : List Token := [.indexed "A", opening, .number "1", closing]
      let second : List Token := [.name "I", .operator .plus, .number "1"]
      let rest : List Token := [.operator .assign, .number "4"]
      let tokens : List Token :=
        opening :: first ++ closing :: (opening :: second ++ closing :: rest)
      let bad : List Token := [opening, .number "1"]
      (Leading tokens [first, second] rest
        ∧ (∀ groups after, Leading tokens groups after → [first, second] = groups ∧ rest = after)
        ∧ measured tokens = .ok ([first, second], 11)
        ∧ (Scan.advance tokens)^[14] (.between [] 0) = .done (.ok ([first, second], 11)))
      ∧ split bad = .error .missingBracket ∧ Fault.missingBracket.kind = .arrayForm := by
  intro first second rest tokens bad
  have formedFirst : Formed first := by
    refine ⟨by decide, balanced_iff_closes.mpr ?_⟩
    simp (disch := decide) only [first, closes_other_iff, closes_opening_iff, closes_closing_iff,
      closes_nil_iff]
  have formedSecond : Formed second := by
    refine ⟨by decide, balanced_iff_closes.mpr ?_⟩
    simp (disch := decide) only [second, closes_other_iff, closes_nil_iff]
  have leading : Leading tokens [first, second] rest :=
    .cons formedFirst (.single formedSecond (by decide))
  obtain ⟨-, measures, unique, -, -, -, -, ends⟩ := split_leading_groups tokens
  have taken : measured tokens = .ok ([first, second], 11) :=
    (measures _ _).mpr ⟨rest, leading, rfl⟩
  have length : tokens.length + 1 = 14 := rfl
  rw [taken, length] at ends
  obtain ⟨-, -, -, -, misses, -, faults, -⟩ := split_leading_groups bad
  have covered : Covered 0 [.number "1"] :=
    (covered_other_iff (by decide) (by decide)).mpr (covered_nil 0)
  have none : ∀ group ∈ ([] : List (List Token)), Formed group := by simp
  have missing : split bad = .error .missingBracket :=
    misses.mpr ⟨_, ⟨[], none, rfl⟩, unclosed_iff_covered.mpr covered⟩
  exact ⟨⟨leading, fun _ _ => unique _ _ _ _ leading, taken, ends⟩, missing,
    (faults _ missing).1⟩

end Gosub.Indices
