/-!
Dialogues: computations that ask the outside world questions and go on with the answers. A dialogue
is a value, so that it can be held with a script as well as with the world.
-/

namespace Chartbook

inductive Dialogue (Query : Type) (Reply : Query → Type) (α : Type) where
  | done (value : α)
  | ask (query : Query) (next : Reply query → Dialogue Query Reply α)

namespace Dialogue

variable {Query : Type} {Reply : Query → Type}

def bind (dialogue : Dialogue Query Reply α) (next : α → Dialogue Query Reply β) :
    Dialogue Query Reply β :=
  match dialogue with
  | done value => next value
  | ask query rest => ask query fun reply => (rest reply).bind next

instance : Monad (Dialogue Query Reply) where
  pure := done
  bind := bind

def asking (query : Query) : Dialogue Query Reply (Reply query) :=
  ask query done

/-- Answers every question by a dialogue of its own. -/
def through {Inner : Type} {InnerReply : Inner → Type}
    (answer : (query : Query) → Dialogue Inner InnerReply (Reply query)) :
    Dialogue Query Reply α → Dialogue Inner InnerReply α
  | done value => done value
  | ask query next => (answer query).bind fun reply => (next reply).through answer

/-- Holds the dialogue with somebody whose answers depend on a state. -/
def holdWith (answer : σ → (query : Query) → Reply query × σ) :
    Dialogue Query Reply α → σ → α × σ
  | done value, state => (value, state)
  | ask query next, state =>
      let (reply, after) := answer state query
      (next reply).holdWith answer after

/-- Holds the dialogue with the effects of a monad. -/
def hold [Monad m] (answer : (query : Query) → m (Reply query)) : Dialogue Query Reply α → m α
  | done value => pure value
  | ask query next => do
      let reply ← answer query
      (next reply).hold answer

end Dialogue

end Chartbook
