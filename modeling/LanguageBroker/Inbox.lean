/-!
A bounded subscription to announcements. When it is full the oldest one is lost, and the reader is
told so once before it sees those that are left, in their order.
-/

namespace LanguageBroker

structure Inbox (α : Type) where
  /-- Announcements not read yet, the oldest first. -/
  items : List α := []
  /-- How many were lost since the reader last looked. -/
  lost : Nat := 0
  deriving Repr

namespace Inbox

/-- What a reader finds. -/
inductive Receipt (α : Type)
  | item (a : α)
  | lost (count : Nat)
  deriving Repr

/-- Announces `a` to a subscription with room for `capacity` items. -/
def push (capacity : Nat) (b : Inbox α) (a : α) : Inbox α :=
  if b.items.length < capacity then { b with items := b.items ++ [a] }
  else { items := b.items.drop 1 ++ [a], lost := b.lost + 1 }

def isEmpty (b : Inbox α) : Bool := b.items.isEmpty && b.lost == 0

/-- What is left when one receipt is read. -/
def pop (b : Inbox α) : Inbox α :=
  if b.lost = 0 then { b with items := b.items.drop 1 } else { b with lost := 0 }

/-- Everything there is to read, in the order of reading. -/
def receipts (b : Inbox α) : List (Receipt α) :=
  (if b.lost = 0 then [] else [.lost b.lost]) ++ b.items.map .item

end Inbox

end LanguageBroker
