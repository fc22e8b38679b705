import Gosub.Fault

/-!
Stacks of limited size. A push always takes place; the check after it tells whether it was one too
many.
-/

namespace Gosub

/-- A stack that keeps count of its items. -/
structure BoundedStack (α : Type) where
  /-- The items, the top first. -/
  items : List α
  size : Nat
  size_eq : size = items.length

/-- The most items that a stack may hold. -/
def maxStackSize : Nat := 65535

namespace BoundedStack

variable {α : Type}

/-- The stack without items. -/
def empty : BoundedStack α where
  items := []
  size := 0
  size_eq := rfl

/-- Puts an item on top. -/
def push (stack : BoundedStack α) (item : α) : BoundedStack α where
  items := item :: stack.items
  size := stack.size + 1
  size_eq := by simp [stack.size_eq]

/-- The item on top. -/
def top? (stack : BoundedStack α) : Option α :=
  stack.items.head?

/-- Takes the top item away, where there is one. -/
def pop (stack : BoundedStack α) : BoundedStack α where
  items := stack.items.tail
  size := stack.size - 1
  size_eq := by simp [stack.size_eq]

/-- Puts an item in the place of the top one, where there is one. -/
def replaceTop (stack : BoundedStack α) (item : α) : BoundedStack α :=
  match stack.top? with
  | some _ => stack.pop.push item
  | none => stack

/-- Refuses a stack that holds too many items. -/
def check (stack : BoundedStack α) (title : String) : Except Fault Unit :=
  if maxStackSize < stack.size then .error (.stackOverflow title) else .ok ()

/-- The items in square brackets, the bottom first. -/
def printed (stack : BoundedStack α) (printItem : α → String) : String :=
  "[" ++ ", ".intercalate (stack.items.reverse.map printItem) ++ "]"

end BoundedStack

end Gosub
