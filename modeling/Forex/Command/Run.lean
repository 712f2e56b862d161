import Forex.Command.Basic
import Forex.Command.Error
import Forex.Command.Report
import Forex.Config.Load
import Forex.Markup.Json
import Forex.Registry.Edit

namespace Forex

abbrev Action (m : Type → Type) (α : Type) := ExceptT (Abort CommandError) m α

namespace Action

variable {m : Type → Type} [Monad m] {ε α : Type}

def fail (c : Cause) : Action m α := throw (.refused { cause := c })

def ofResult (f : ε → Cause) : Except ε α → Action m α
  | .ok a => pure a
  | .error e => fail (f e)

def ofCall (f : ε → Cause) (call : m (Except ε α)) : Action m α := do
  ofResult f (← ExceptT.lift call)

def ofAborted (f : ε → Cause) : Except (Abort ε) α → Action m α
  | .ok a => pure a
  | .error (.refused e) => fail (f e)
  | .error (.outOfRange e) => throw (.outOfRange e)

def ofArithmetic : Except Decimal.Fault α → Action m α
  | .ok a => pure a
  | .error e => throw (.outOfRange e)

end Action

def Converter.converted (c : Converter) (amount : Decimal) (source : Option Code) (target : Code)
    (strict : Bool) : Except (Abort CurrencyError) Converted := do
  let pair : Pair := ⟨source.getD c.base, target⟩
  let result ← if strict then c.convertStrict pair amount else .ok (c.convertBetween pair amount)
  return {
    amount, pair
    rate := c.rate pair
    result := ((c.currency? target).map fun k ↦ k.round result).getD result }

def Registry.setRate (e : ExchangeRate) : Registry.Edit Unit := do
  if ((← get).rates.get? e.pair).isSome then updateRate e else createRate e

namespace Command

variable {m : Type → Type} [Monad m] (host : Host m) (config : Config)

def loadStore : Action m Store := do
  let provider : Provider m ← Action.ofResult .rates (config.provider host)
  let empty := Store.withPricing config.pricing.baseCurrency config.pricing.displayPrecision
  let (store, result) ← ExceptT.lift (empty.refresh provider host.clock false)
  let _ ← Action.ofResult .rates result
  return store

/-- The fee schedule that an argument gives: one in braces itself, anything else by a path. -/
def readFee (arg : String) : Action m FeeSchedule := do
  let isInline := (arg.toList.dropWhile Text.isBlank).head? = some '\x7b'
  let text ←
    if isInline then pure arg
    else
      match ← ExceptT.lift (host.readText arg) with
      | .ok text => pure text
      | .error e =>
        throw (.refused
          (CommandError.withContext ("Failed to read fee schedule " ++ arg) { cause := .file e }))
  match Json.decodeText FeeSchedule.decode text with
  | .ok fee => return fee
  | .error e =>
    throw (.refused (CommandError.withContext "Invalid fee schedule" { cause := .document e }))

/-- Applies a change to the registry in the snapshot file, which is written only if the change is
made. -/
def editSnapshot (command : String) (edit : Registry.Edit Unit) : Action m Unit := do
  if config.rates.source ≠ .file then Action.fail (.fileSourceRequired command)
  let file : SnapshotFile := ⟨config.rates.path⟩
  let snapshot ← Action.ofCall .rates (file.load host)
  match edit.run snapshot.toRegistry with
  | .ok _ registry => Action.ofCall .rates (file.save host (Snapshot.ofRegistry registry))
  | .error e _ => Action.ofAborted .registry (.error e)

def createSnapshot (path : String) : Action m Unit := do
  if ← ExceptT.lift (host.fileExists path) then Action.fail (.snapshotExists path)
  Action.ofCall .rates ((SnapshotFile.mk path).save host (Snapshot.ofRegistry .initial))

def run (json : Bool) : Command → Action m (List String)
  | rates => do return (← loadStore host config).report json
  | convert amount source target strict => do
    let store ← loadStore host config
    let converter ← Action.ofResult .currency store.converter
    let converted ← Action.ofAborted .currency (converter.converted amount source target strict)
    return converted.report json
  | format amount precision rounding => return (amount.toPrice precision rounding).report json
  | markup value fee => do
    let fee ← readFee host fee
    return (← Action.ofArithmetic (fee.apply value)).report json
  | setRate e => do
    editSnapshot host config "set-rate" (Registry.setRate e)
    return [e.pair.source.text ++ " -> " ++ e.pair.target.text ++ " = " ++ e.rate.toText]
  | deleteRate p => do
    editSnapshot host config "delete-rate" do
      let _ ← Registry.deleteRate p
    return [p.source.text ++ " -> " ++ p.target.text ++ " deleted"]
  | setDefault id => do
    editSnapshot host config "set-default" (Registry.changeDefault id)
    return ["Currency " ++ toString id.toInt ++ " is now the default currency"]
  | init path => do
    let path := path.getD config.rates.path
    createSnapshot host path
    return ["Created " ++ path]

end Command

def Invocation.run {m : Type → Type} [Monad m] (host : Host m) (config : Config) (i : Invocation) :
    m (Except (Abort CommandError) (List String)) :=
  (i.command.run host config i.json).run

end Forex
