import Gosub.Environment.Basic

/-! Qualified names. A name with `@` stands for itself. Any other name stands for itself outside of
all namespaces, and in a namespace it is told apart from the same name in every other namespace.
-/

namespace Gosub

/-- The last part of a name, behind all marks. -/
def localPart (name : String) : List Char :=
  (name.toList.reverse.takeWhile (· != '@')).reverse

/-- The qualified names of a namespace: its name, the mark, and a name without a mark. -/
def InNamespace (scope key : String) : Prop :=
  ∃ name : String, '@' ∉ name.toList ∧ key = scope ++ "@" ++ name

namespace Environment

variable {env : Environment} {name : String}

theorem qualify_of_marked (marked : '@' ∈ name.toList) (env : Environment)
    : env.qualify name = name := by
  simp [qualify, marked]

theorem qualify_of_unscoped (unscoped : env.scope = "") (name : String)
    : env.qualify name = name := by
  simp [qualify, unscoped]

theorem qualify_of_scoped (active : env.scope ≠ "") (plain : '@' ∉ name.toList)
    : env.qualify name = env.scope ++ "@" ++ name := by
  simp [qualify, active, plain]

/-- In a namespace every name is qualified. -/
theorem mark_mem_qualify (active : env.scope ≠ "") (name : String)
    : '@' ∈ (env.qualify name).toList := by
  by_cases marked : '@' ∈ name.toList
  · rw [qualify_of_marked marked]
    exact marked
  · rw [qualify_of_scoped active marked]
    simp

theorem qualify_congr {other : Environment} (same : other.scope = env.scope) (name : String)
    : other.qualify name = env.qualify name := by
  rw [qualify, qualify, same]

/-- A name stands for the same in two environments just if it is qualified already, or the same
namespace is active in both.
-/
theorem qualify_eq_iff (env other : Environment) (name : String)
    : env.qualify name = other.qualify name ↔ '@' ∈ name.toList ∨ env.scope = other.scope := by
  constructor
  · intro same
    by_cases marked : '@' ∈ name.toList
    · exact .inl marked
    · refine .inr ?_
      by_cases unscoped : env.scope = ""
      · by_cases unscoped' : other.scope = ""
        · rw [unscoped, unscoped']
        · rw [qualify_of_unscoped unscoped] at same
          have inside := mark_mem_qualify unscoped' name
          rw [← same] at inside
          exact absurd inside marked
      · by_cases unscoped' : other.scope = ""
        · rw [qualify_of_unscoped unscoped'] at same
          have inside := mark_mem_qualify unscoped name
          rw [same] at inside
          exact absurd inside marked
        · rw [qualify_of_scoped unscoped marked, qualify_of_scoped unscoped' marked] at same
          have front := (String.append_left_inj name).mp same
          exact (String.append_left_inj "@").mp front
  · rintro (marked | scope)
    · rw [qualify_of_marked marked, qualify_of_marked marked]
    · exact qualify_congr scope name

/-- Whatever the namespace, a name keeps its last part. -/
theorem localPart_qualify (env : Environment) (name : String)
    : localPart (env.qualify name) = localPart name := by
  by_cases marked : '@' ∈ name.toList
  · rw [qualify_of_marked marked]
  · by_cases unscoped : env.scope = ""
    · rw [qualify_of_unscoped unscoped]
    · have passed : ∀ c ∈ name.toList.reverse, (c != '@') = true := by
        intro c member
        simpa using fun same : c = '@' => marked (same ▸ List.mem_reverse.mp member)
      have whole : name.toList.reverse.takeWhile (· != '@') = name.toList.reverse :=
        by simpa using @List.takeWhile_append_of_pos _ (· != '@') _ [] passed
      rw [qualify_of_scoped unscoped marked, localPart, localPart, whole]
      simp [List.takeWhile_append_of_pos passed]

end Environment

end Gosub
