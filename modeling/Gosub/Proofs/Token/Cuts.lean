import Gosub.Proofs.Token.Lexemes

/-! What can be said of a text that is cut into tokens: where its characters go, which tokens can
stand next to each other, and which changes at its two ends leave the tokens as they are.
-/

namespace Gosub.Lexer

-----------------------------------------------------------------------------------------
-- The tokens of a cut
-----------------------------------------------------------------------------------------

/-- Every token of a cut is forced by what follows it in the text. -/
theorem Cut.forced_of_mem {cs : List Char} {ts : List Token} (cut : Cut cs ts) {token : Token}
    (member : token ∈ ts)
    : ∃ rest, Forced rest token := by
  induction cut with
  | done => cases member
  | @remark gap rest blank forced =>
      obtain rfl := List.mem_singleton.mp member
      exact ⟨rest, forced⟩
  | @token gap rest first later blank forced ordinary more ih =>
      rcases List.mem_cons.mp member with rfl | inLater
      · exact ⟨rest, forced⟩
      · exact ih inLater

/-- The characters of a token stand in the text that it is cut from. -/
theorem Cut.mem_of_mem_printed {cs : List Char} {ts : List Token} (cut : Cut cs ts)
    {token : Token} (member : token ∈ ts) {c : Char} (inside : c ∈ token.printed.toList)
    : c ∈ cs := by
  induction cut with
  | done => cases member
  | remark =>
      obtain rfl := List.mem_singleton.mp member
      exact List.mem_append_left _ (List.mem_append_right _ inside)
  | token blank forced ordinary more ih =>
      rcases List.mem_cons.mp member with rfl | inLater
      · exact List.mem_append_left _ (List.mem_append_right _ inside)
      · exact List.mem_append_right _ (ih inLater)

-----------------------------------------------------------------------------------------
-- The ends of a text
-----------------------------------------------------------------------------------------

theorem not_gap_of_isDigit {c : Char} (digit : c.isDigit = true) : ¬ Gap c := by
  intro gap
  simp only [Gap, List.mem_cons, List.not_mem_nil, or_false] at gap
  rcases gap with rfl | rfl | rfl | rfl <;> cases digit

/-- The text of a token does not end with a gap. -/
theorem Forced.printed_eq_concat {rest : List Char} {token : Token} (forced : Forced rest token)
    : ∃ run c, token.printed.toList = run ++ [c] ∧ ¬ Gap c := by
  have ofSolid {text : String} (filled : text ≠ "") (solid : ∀ c ∈ text.toList, ¬ Gap c)
      : ∃ run c, text.toList = run ++ [c] ∧ ¬ Gap c := by
    rcases List.eq_nil_or_concat text.toList with empty | ⟨run, c, spelled⟩
    · exact absurd (String.toList_eq_nil_iff.mp empty) filled
    · rw [List.concat_eq_append] at spelled
      exact ⟨run, c, spelled, solid c (by simp [spelled])⟩
  have ofWord {word : String} (before : WordBefore rest word) :=
    ofSolid before.nonempty fun c member gap => before.unmarked c member (.inl gap)
  cases forced with
  | number nonempty digit =>
      exact ofSolid nonempty fun c member => not_gap_of_isDigit (digit c member)
  | @quoted s => exact ⟨'"' :: s.toList, '"', by simp [Token.printed], by decide⟩
  | @relation r =>
      refine ofSolid (by cases r <;> decide) ?_
      cases r <;> simp [Token.printed, Relation.spelling, Gap]
  | assign => exact ⟨[], '=', rfl, by decide⟩
  | @operator op => exact ⟨[], op.char, by simp [Token.printed], by cases op <;> decide⟩
  | truth word => exact ofWord word
  | keyword word => exact ofWord word
  | indexed word => exact ofWord word
  | name word => exact ofWord word

/-- A gap in front of a text does not change its tokens. -/
theorem Cut.gap_cons {c : Char} {cs : List Char} {ts : List Token} (gap : Gap c) (cut : Cut cs ts)
    : Cut (c :: cs) ts := by
  cases cut with
  | done blank => exact .done (List.forall_mem_cons.mpr ⟨gap, blank⟩)
  | remark blank forced => exact .remark (List.forall_mem_cons.mpr ⟨gap, blank⟩) forced
  | token blank forced ordinary more =>
      exact .token (List.forall_mem_cons.mpr ⟨gap, blank⟩) forced ordinary more

theorem EndsOr.of_concat {kind : Char → Prop} {rest : List Char} {c : Char}
    (ends : EndsOr kind (rest ++ [c]))
    : EndsOr kind rest := by
  intro d head
  exact ends d (by rw [List.head?_append, head, Option.some_or])

theorem WordBefore.of_concat {rest : List Char} {c : Char} {word : String}
    (before : WordBefore (rest ++ [c]) word)
    : WordBefore rest word :=
  ⟨before.nonempty, before.unmarked, before.noDigit, before.longest.of_concat⟩

/-- A gap at the end of the text forces no token. -/
theorem Forced.of_gap_concat {rest : List Char} {c : Char} {token : Token} (gap : Gap c)
    (forced : Forced (rest ++ [c]) token)
    : Forced rest token := by
  have shorter {other text : List Char} (begins : other <+: text ++ rest)
      : other <+: text ++ (rest ++ [c]) := by
    rw [← List.append_assoc]
    exact begins.trans (List.prefix_append _ _)
  cases forced with
  | number nonempty digit longest unspoiled =>
      exact .number nonempty digit longest.of_concat unspoiled.of_concat
  | quoted inner => exact .quoted inner
  | relation longest => exact .relation fun other begins => longest other (shorter begins)
  | assign longest =>
      refine .assign fun other begins => longest other ?_
      rw [← List.singleton_append] at begins ⊢
      exact shorter begins
  | operator single => exact .operator single
  | truth word ended => exact .truth word.of_concat ended.of_concat
  | keyword word ended => exact .keyword word.of_concat ended.of_concat
  | indexed word bracket =>
      refine .indexed word.of_concat ?_
      cases rest with
      | nil =>
          obtain rfl := Option.some.inj bracket
          exact absurd gap (by decide)
      | cons d rest => exact bracket
  | name word noBracket free =>
      refine .name word.of_concat (fun bracket => noBracket ?_) fun ended => free ?_
      · rw [List.head?_append, bracket, Option.some_or]
      · intro d head
        cases rest with
        | nil =>
            obtain rfl := Option.some.inj head
            exact gap
        | cons e rest => exact ended d head

/-- A gap at the end of a text belongs to what follows a token, since no token ends with one. -/
theorem Forced.exists_before_gap {head rest cs : List Char} {c : Char} {token : Token}
    (gap : Gap c) (forced : Forced rest token)
    (whole : cs ++ [c] = head ++ token.printed.toList ++ rest)
    : ∃ rest', rest = rest' ++ [c] ∧ cs = head ++ token.printed.toList ++ rest' := by
  obtain ⟨run, d, spelled, solid⟩ := forced.printed_eq_concat
  rcases List.eq_nil_or_concat rest with rfl | ⟨rest', last, rfl⟩
  · rw [spelled, List.append_nil, ← List.append_assoc] at whole
    obtain ⟨_, same⟩ := List.append_inj' whole rfl
    rw [(List.cons.inj same).1] at gap
    exact absurd gap solid
  · rw [List.concat_eq_append, ← List.append_assoc] at whole
    obtain ⟨text, same⟩ := List.append_inj' whole rfl
    exact ⟨rest', by rw [same, List.concat_eq_append], text⟩

/-- A gap at the end of a text does not change its tokens, by induction along the cuts. -/
theorem Cut.of_gap_concat {cs : List Char} {c : Char} {ts : List Token} (gap : Gap c)
    (cut : Cut (cs ++ [c]) ts)
    : Cut cs ts := by
  generalize whole : cs ++ [c] = text at cut
  induction cut generalizing cs with
  | done blank =>
      subst whole
      exact .done fun d member => blank d (List.mem_append_left _ member)
  | remark blank forced =>
      obtain ⟨rest, rfl, rfl⟩ := forced.exists_before_gap gap whole
      exact .remark blank (forced.of_gap_concat gap)
  | token blank forced ordinary more ih =>
      obtain ⟨rest, rfl, rfl⟩ := forced.exists_before_gap gap whole
      exact .token blank (forced.of_gap_concat gap) ordinary (ih rfl)

end Gosub.Lexer
