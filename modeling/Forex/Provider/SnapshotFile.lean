import Forex.Host
import Forex.Provider.Basic
import Forex.Snapshot

namespace Forex

structure SnapshotFile where
  path : String
deriving DecidableEq

namespace SnapshotFile

variable {m : Type → Type} [Monad m] (host : Host m) (f : SnapshotFile)

def load : m (Except RatesError Snapshot) := do
  match ← host.readText f.path with
  | .ok text => return (Snapshot.ofText text).mapError .payload
  | .error e => return .error (.file f.path e)

def save (s : Snapshot) : m (Except RatesError Unit) := do
  return (← host.write f.path s.toText).mapError (.file f.path)

/-- What a snapshot answers. A rate must be there for the pair itself. -/
def answer (s : Snapshot) : (q : Request) → q.Answer
  | .currencies => .ok s.currencies
  | .rates => .ok s.exchangeRates
  | .rate p =>
    match RateTable.get? ⟨s.exchangeRates⟩ p with
    | some e => .ok e
    | none => .error (.rateUnavailable p)

def provider : Provider m := fun q ↦ do
  return (← f.load host).bind fun s ↦ answer s q

end SnapshotFile

end Forex
