import Forex.Store.Basic

namespace Forex.Store

structure Traffic where
  store : Store := {}
  waiting : List (Nat × Call) := []
  started : Nat := 0

inductive Event
  | refresh (silent : Bool)
  | pairRate (pair : Pair)
  | answer (number : Nat) (provider : (q : Request) → q.Answer) (now : Timestamp)

namespace Traffic

def note (t : Traffic) (number : Nat) (others : List (Nat × Call)) : Store × Progress → Traffic
  | (store, .waiting call) => { t with store, waiting := others ++ [(number, call)] }
  | (store, _) => { t with store, waiting := others }

def start (t : Traffic) (begun : Store × Progress) : Traffic × Option (Nat × Progress) :=
  ({ t with started := t.started + 1 }.note t.started t.waiting begun, some (t.started, begun.2))

/-- The traffic after an event, and how the call that it concerns stands then. An answer for which
no call waits is lost. -/
def step (t : Traffic) : Event → Traffic × Option (Nat × Progress)
  | .refresh silent => t.start (t.store.startRefresh silent)
  | .pairRate p => t.start (t.store.startPairRate p)
  | .answer number provider now =>
    match t.waiting.lookup number with
    | none => (t, none)
    | some call =>
      let next := t.store.resume now call (provider call.request)
      (t.note number (t.waiting.filter (·.1 != number)) next, some (number, next.2))

def run (t : Traffic) (events : List Event) : Traffic := events.foldl (fun t e ↦ (t.step e).1) t

def outstanding (t : Traffic) (q : Request) : Nat := t.waiting.countP (·.2.request == q)

end Traffic

end Forex.Store
