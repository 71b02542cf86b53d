/-!
# Loops

A loop runs in rounds.  A round comes to the end of the loop, with what it leaves, or it goes on with
another state:

    loop round s = some a     from s the loop ends, and leaves a
    loop round s = none       from s it goes on for ever

There is no bound on the rounds.  Most loops of a story have one of their own and do without this.
-/

namespace ZMachine

inductive Round (σ α : Type) where
  | again (s : σ)
  | done (a : α)

/-- What is made of a round: `done` of what the loop leaves, or `again` of the state it goes on
with. -/
def Round.elim {σ α β : Type} (done : α → β) (again : σ → β) : Round σ α → β
  | .again s => again s
  | .done a => done a

section
variable {σ α : Type} (round : σ → Round σ α)

/-- Takes one round after the other and answers what the loop leaves; `none` stands for a loop that
does not end. -/
def loop (s : σ) : Option α :=
  match round s with
  | .done a => some a
  | .again next => by
    -- This is `loop next`.  Written as a term it would be stored with its position in the file, which
    -- a definition by `partial_fixpoint` keeps, and so would all that is derived from the definition.
    apply loop
    exact next
partial_fixpoint

end

end ZMachine
