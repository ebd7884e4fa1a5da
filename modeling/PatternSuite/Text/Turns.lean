/-!
# Loops of readers

A reader in a loop takes turns until one of them is the last. Every turn but the last reads
something, so the length of the text bounds their number.
-/

namespace PatternSuite.Text

/-- What one turn of a loop comes to. -/
inductive Turn (α β : Type)
  | again (a : α)
  | done (b : β)

/-- Takes turns until one is the last; there is fuel for more turns than there can be. -/
def takeTurns {m : Type → Type} [Monad m] {α β : Type} [Inhabited β] (step : α → m (Turn α β)) :
    Nat → α → m β
  | 0, _ => return default
  | fuel + 1, a => do
    match ← step a with
    | .again a => takeTurns step fuel a
    | .done b => return b

end PatternSuite.Text
