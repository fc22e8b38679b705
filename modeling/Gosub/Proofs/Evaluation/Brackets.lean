import Gosub.Evaluation.Indices

/-! Brackets. A group ends at the first bracket that closes more than was opened since its start, so
what stands in it is balanced. The index groups of an array are the bracketed groups right after its
name, up to the first token that opens none; they are found just where each is closed and filled.
-/

namespace Gosub.Indices

-----------------------------------------------------------------------------------------
-- Balance
-----------------------------------------------------------------------------------------

/-- At no point are more brackets closed than were opened, with `depth` brackets open at first. -/
def Covered (depth : Nat) (tokens : List Token) : Prop :=
  ∀ front, front <+: tokens → front.count closing ≤ front.count opening + depth

/-- Every bracket is closed after it is opened. -/
structure Balanced (tokens : List Token) : Prop where
  covered : Covered 0 tokens
  settled : tokens.count closing = tokens.count opening

section Covered

variable {depth : Nat} {token : Token} {tokens : List Token}

theorem covered_nil (depth : Nat) : Covered depth [] := by
  intro front leading
  rw [List.prefix_nil.mp leading]
  exact Nat.zero_le _

theorem covered_cons_iff
    : Covered depth (token :: tokens)
      ↔ ∀ front, front <+: tokens
          → (token :: front).count closing ≤ (token :: front).count opening + depth := by
  constructor
  · intro covered front leading
    exact covered _ (List.cons_prefix_cons.mpr ⟨rfl, leading⟩)
  · intro covered front leading
    rcases List.prefix_cons_iff.mp leading with rfl | ⟨rest, rfl, leading⟩
    · exact Nat.zero_le _
    · exact covered rest (List.cons_prefix_cons.mp leading).2

theorem covered_opening_iff : Covered depth (opening :: tokens) ↔ Covered (depth + 1) tokens := by
  rw [covered_cons_iff]
  refine forall₂_congr fun front leading => ?_
  rw [List.count_cons_self, List.count_cons_of_ne (by decide)]
  omega

theorem covered_closing_iff : Covered (depth + 1) (closing :: tokens) ↔ Covered depth tokens := by
  rw [covered_cons_iff]
  refine forall₂_congr fun front leading => ?_
  rw [List.count_cons_self, List.count_cons_of_ne (by decide)]
  omega

theorem not_covered_closing : ¬ Covered 0 (closing :: tokens) := by
  intro covered
  exact absurd (covered [closing] (List.cons_prefix_cons.mpr ⟨rfl, List.nil_prefix⟩)) (by decide)

theorem covered_other_iff (notOpening : token ≠ opening) (notClosing : token ≠ closing)
    : Covered depth (token :: tokens) ↔ Covered depth tokens := by
  rw [covered_cons_iff]
  refine forall₂_congr fun front leading => ?_
  rw [List.count_cons_of_ne notOpening, List.count_cons_of_ne notClosing]

end Covered

-----------------------------------------------------------------------------------------
-- One group
-----------------------------------------------------------------------------------------

section Close

variable {depth : Nat} {token : Token} {tokens group rest : List Token}

/-- The group closes just the `depth` brackets that are open at first. -/
def Closes (depth : Nat) (group : List Token) : Prop :=
  Covered depth group ∧ group.count closing = group.count opening + depth

theorem balanced_iff_closes : Balanced group ↔ Closes 0 group :=
  ⟨fun balanced => ⟨balanced.covered, balanced.settled⟩, fun closes => ⟨closes.1, closes.2⟩⟩

theorem closes_nil_iff : Closes depth [] ↔ depth = 0 := by
  simp [Closes, covered_nil, eq_comm]

theorem closes_opening_iff : Closes depth (opening :: group) ↔ Closes (depth + 1) group := by
  rw [Closes, covered_opening_iff, List.count_cons_self, List.count_cons_of_ne (by decide),
    Nat.add_right_comm]
  rfl

theorem closes_closing_iff : Closes (depth + 1) (closing :: group) ↔ Closes depth group := by
  rw [Closes, covered_closing_iff, List.count_cons_self, List.count_cons_of_ne (by decide),
    ← Nat.add_assoc, Nat.add_right_cancel_iff]
  rfl

theorem closes_other_iff (notOpening : token ≠ opening) (notClosing : token ≠ closing)
    : Closes depth (token :: group) ↔ Closes depth group := by
  rw [Closes, covered_other_iff notOpening notClosing, List.count_cons_of_ne notOpening,
    List.count_cons_of_ne notClosing]
  rfl

/-- No bracket closes a group in tokens that are covered to their end, by induction over these. -/
theorem close?_eq_none_iff : close? depth tokens = none ↔ Covered depth tokens := by
  induction tokens generalizing depth with
  | nil => exact iff_of_true rfl (covered_nil depth)
  | cons token tokens ih =>
      unfold close?
      split
      · next opens => rw [opens, Option.map_eq_none_iff, ih, covered_opening_iff]
      · next notOpening =>
        split
        · next closes =>
          rw [closes]
          cases depth with
          | zero => exact iff_of_false (by simp) not_covered_closing
          | succ depth =>
              rw [covered_closing_iff, ← ih]
              exact Option.map_eq_none_iff
        · next notClosing =>
          rw [Option.map_eq_none_iff, ih, covered_other_iff notOpening notClosing]

/-- A group is closed at the first bracket that closes more than is open, by induction over the
tokens.
-/
theorem close?_eq_some_iff
    : close? depth tokens = some (group, rest)
      ↔ tokens = group ++ closing :: rest ∧ Closes depth group := by
  induction tokens generalizing depth group rest with
  | nil => simp [close?]
  | cons token tokens ih =>
      -- The group is empty, or the token is its first one and the rest of it is closed later.
      have later {depth' : Nat}
          (same : ∀ {inner}, Closes depth (token :: inner) ↔ Closes depth' inner)
          (inside : token ≠ closing ∨ depth ≠ 0)
          : (close? depth' tokens).map (fun found => (token :: found.1, found.2))
              = some (group, rest)
            ↔ token :: tokens = group ++ closing :: rest ∧ Closes depth group := by
        cases group with
        | nil =>
            refine iff_of_false (by simp) ?_
            rintro ⟨written, closes⟩
            exact inside.elim (absurd (List.cons.inj written).1) (absurd (closes_nil_iff.mp closes))
        | cons first inner =>
            simp only [Option.map_eq_some_iff, Prod.exists, Prod.mk.injEq, List.cons.injEq,
              List.cons_append, ih]
            constructor
            · rintro ⟨_, _, ⟨written, closes⟩, ⟨rfl, rfl⟩, rfl⟩
              exact ⟨⟨rfl, written⟩, same.mpr closes⟩
            · rintro ⟨⟨rfl, written⟩, closes⟩
              exact ⟨inner, rest, ⟨written, same.mp closes⟩, ⟨rfl, rfl⟩, rfl⟩
      unfold close?
      split
      · next opens =>
        subst opens
        exact later closes_opening_iff (.inl (by decide))
      · next notOpening =>
        split
        · next closes =>
          subst closes
          cases depth with
          | zero =>
              cases group with
              | nil => simp [closes_nil_iff]
              | cons first inner =>
                  refine iff_of_false (by simp) ?_
                  rintro ⟨written, closes⟩
                  rw [← (List.cons.inj written).1] at closes
                  exact not_covered_closing closes.1
          | succ depth => exact later closes_closing_iff (.inr (Nat.succ_ne_zero _))
        · next notClosing => exact later (closes_other_iff notOpening notClosing) (.inl notClosing)

end Close

-----------------------------------------------------------------------------------------
-- The groups after a name
-----------------------------------------------------------------------------------------

/-- What can stand between the brackets of an index. -/
structure Formed (group : List Token) : Prop where
  filled : group ≠ []
  balanced : Balanced group

/-- Groups with their brackets, one after another. -/
def written (groups : List (List Token)) : List Token :=
  groups.flatMap fun group => opening :: group ++ [closing]

/-- The tokens begin with these groups, and no further group follows them. -/
structure Leading (tokens : List Token) (groups : List (List Token)) (rest : List Token)
    : Prop where
  text : tokens = written groups ++ rest
  filled : groups ≠ []
  formed : ∀ group ∈ groups, Formed group
  ended : rest.head? ≠ some opening

/-- What is wrong with tokens that begin with no groups, by the first bad one: the bracket before
it, the bracket after it, or its content is missing.
-/
inductive Malformed : List Token → Fault → Prop
  | unopened {tokens : List Token} (start : tokens.head? ≠ some opening)
    : Malformed tokens .expectedBracket
  | unclosed {groups : List (List Token)} {after : List Token}
    (formed : ∀ group ∈ groups, Formed group) (covered : Covered 0 after)
    : Malformed (written groups ++ opening :: after) .missingBracket
  | empty {groups : List (List Token)} {after : List Token}
    (formed : ∀ group ∈ groups, Formed group)
    : Malformed (written groups ++ opening :: closing :: after) .emptyIndex

section Split

variable {tokens group rest : List Token} {groups : List (List Token)} {fault : Fault}

theorem written_cons_append (group : List Token) (groups : List (List Token)) (after : List Token)
    : written (group :: groups) ++ after
      = opening :: group ++ closing :: (written groups ++ after) := by
  simp [written]

theorem Leading.single (formed : Formed group) (ended : rest.head? ≠ some opening)
    : Leading (opening :: group ++ closing :: rest) [group] rest where
  text := by simp [written]
  filled := by simp
  formed := by simpa using formed
  ended := ended

theorem Leading.cons (formed : Formed group) (leading : Leading tokens groups rest)
    : Leading (opening :: group ++ closing :: tokens) (group :: groups) rest where
  text := by rw [written_cons_append, ← leading.text]
  filled := by simp
  formed := List.forall_mem_cons.mpr ⟨formed, leading.formed⟩
  ended := leading.ended

theorem Leading.append {more : List Token} (leading : Leading tokens groups rest)
    (ended : more.head? ≠ some opening)
    : Leading (tokens ++ more) groups (rest ++ more) where
  text := by rw [leading.text, List.append_assoc]
  filled := leading.filled
  formed := leading.formed
  ended := by
    cases rest with
    | nil => exact ended
    | cons => exact leading.ended

theorem Leading.of_append {more : List Token} (leading : Leading tokens groups (rest ++ more))
    : ∃ front, tokens = front ++ more ∧ Leading front groups rest := by
  refine ⟨written groups ++ rest, ?_, rfl, leading.filled, leading.formed, ?_⟩
  · rw [leading.text, List.append_assoc]
  · have ended := leading.ended
    cases rest with
    | nil => simp
    | cons => exact ended

theorem Malformed.cons (formed : Formed group) (opened : tokens.head? = some opening)
    (malformed : Malformed tokens fault)
    : Malformed (opening :: group ++ closing :: tokens) fault := by
  cases malformed with
  | unopened start => exact absurd opened start
  | unclosed others covered =>
      rw [← written_cons_append]
      exact .unclosed (List.forall_mem_cons.mpr ⟨formed, others⟩) covered
  | empty others =>
      rw [← written_cons_append]
      exact .empty (List.forall_mem_cons.mpr ⟨formed, others⟩)

theorem formed_of_close? (closed : close? 0 tokens = some (group, rest)) (filled : group ≠ [])
    : tokens = group ++ closing :: rest ∧ Formed group := by
  obtain ⟨text, closes⟩ := close?_eq_some_iff.mp closed
  exact ⟨text, filled, balanced_iff_closes.mpr closes⟩

/-- Groups are found where the tokens begin with groups, and a fault where they do not; by induction
over the groups.
-/
theorem split_cases (tokens : List Token)
    : (∃ groups rest, split tokens = .ok (groups, rest) ∧ Leading tokens groups rest)
      ∨ ∃ fault, split tokens = .error fault ∧ Malformed tokens fault := by
  fun_induction split tokens with
  | case1 => exact .inr ⟨_, rfl, .unopened (by simp)⟩
  | case2 tokens unclosed =>
      have none : ∀ group ∈ ([] : List (List Token)), Formed group := by simp
      exact .inr ⟨_, rfl, .unclosed none (close?_eq_none_iff.mp unclosed)⟩
  | case3 tokens rest closed =>
      have none : ∀ group ∈ ([] : List (List Token)), Formed group := by simp
      obtain ⟨rfl, -⟩ := close?_eq_some_iff.mp closed
      exact .inr ⟨_, rfl, .empty none⟩
  | case4 tokens group rest filled closed _ more ih =>
      obtain ⟨rfl, formed⟩ := formed_of_close? closed filled
      rcases ih with ⟨groups, after, found, leading⟩ | ⟨fault, failed, malformed⟩
      · refine .inl ⟨group :: groups, after, ?_, leading.cons formed⟩
        rw [found]
        rfl
      · refine .inr ⟨fault, ?_, malformed.cons formed more⟩
        rw [failed]
        rfl
  | case5 tokens group rest filled closed _ last =>
      obtain ⟨rfl, formed⟩ := formed_of_close? closed filled
      exact .inl ⟨[group], rest, rfl, .single formed last⟩
  | case6 token tokens other => exact .inr ⟨_, rfl, .unopened (by simpa using other)⟩

theorem split_opening (tokens : List Token)
    : split (opening :: tokens)
      = match close? 0 tokens with
        | none => .error .missingBracket
        | some ([], _) => .error .emptyIndex
        | some (group, rest) =>
          if rest.head? = some opening then
            (split rest).map fun (groups, after) => (group :: groups, after)
          else .ok ([group], rest) := by
  rw [split, if_pos rfl]
  split
  · next closed => rw [closed]
  · next closed => rw [closed]
  · next closed => simp only [closed]

/-- A first group is split off, and the next one opens the others. -/
theorem split_group (formed : Formed group)
    : split (opening :: group ++ closing :: rest)
      = if rest.head? = some opening then
          (split rest).map fun (groups, after) => (group :: groups, after)
        else .ok ([group], rest) := by
  have closed : close? 0 (group ++ closing :: rest) = some (group, rest) :=
    close?_eq_some_iff.mpr ⟨rfl, balanced_iff_closes.mp formed.balanced⟩
  rw [List.cons_append, split_opening, closed]
  cases group with
  | nil => exact absurd rfl formed.filled
  | cons => rfl

theorem head?_written_append (groups : List (List Token)) (after : List Token)
    : (written groups ++ opening :: after).head? = some opening := by
  cases groups <;> simp [written]

theorem split_of_leading (leading : Leading tokens groups rest)
    : split tokens = .ok (groups, rest) := by
  obtain ⟨rfl, filled, formed, ended⟩ := leading
  induction groups with
  | nil => exact absurd rfl filled
  | cons group groups ih =>
      rw [List.forall_mem_cons] at formed
      rw [written_cons_append, split_group formed.1]
      cases groups with
      | nil => exact if_neg ended
      | cons next groups =>
          rw [if_pos (by simp [written]), ih (by simp) formed.2]
          rfl

theorem split_of_malformed (malformed : Malformed tokens fault)
    : split tokens = .error fault := by
  -- The groups before the bad one are split off.
  have after (groups : List (List Token)) (formed : ∀ group ∈ groups, Formed group)
      (bad : List Token) (failed : split (opening :: bad) = .error fault)
      : split (written groups ++ opening :: bad) = .error fault := by
    induction groups with
    | nil => exact failed
    | cons group groups ih =>
        rw [List.forall_mem_cons] at formed
        rw [written_cons_append, split_group formed.1, if_pos (head?_written_append ..),
          ih formed.2]
        rfl
  cases malformed with
  | unopened start =>
      cases tokens with
      | nil => rw [split]
      | cons token tokens =>
          rw [split, if_neg (by simpa using start)]
  | @unclosed groups bad formed covered =>
      refine after groups formed bad ?_
      rw [split_opening, close?_eq_none_iff.mpr covered]
  | @empty groups bad formed =>
      refine after groups formed (closing :: bad) ?_
      rw [split_opening]
      rfl

theorem split_eq_ok_iff : split tokens = .ok (groups, rest) ↔ Leading tokens groups rest := by
  refine ⟨fun found => ?_, split_of_leading⟩
  rcases split_cases tokens with ⟨groups', rest', found', leading⟩ | ⟨fault, failed, -⟩
  · rw [found] at found'
    cases found'
    exact leading
  · rw [found] at failed
    cases failed

theorem split_eq_error_iff : split tokens = .error fault ↔ Malformed tokens fault := by
  refine ⟨fun failed => ?_, split_of_malformed⟩
  rcases split_cases tokens with ⟨groups, rest, found, -⟩ | ⟨fault', failed', malformed⟩
  · rw [failed] at found
    cases found
  · rw [failed] at failed'
    cases failed'
    exact malformed

end Split

end Gosub.Indices
