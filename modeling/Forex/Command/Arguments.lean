import Forex.Command.Basic
import Forex.Text.Digits

namespace Forex

inductive Stop
  | usage
  | help
  | version
deriving DecidableEq

def Stop.exitCode : Stop → Nat
  | usage => 2
  | help | version => 0

structure OptionForm where
  name : String
  letter : Option Char := none
  isSwitch : Bool := false
  accepts : String → Bool := fun _ ↦ true

structure Given where
  options : List (String × String) := []
  operands : List String := []

namespace Given

def value? (g : Given) (name : String) : Option String := g.options.lookup name

def has (g : Given) (name : String) : Bool := (g.value? name).isSome

def take (g : Given) (o : OptionForm) (value : String) : Except Stop Given :=
  if g.has o.name || !o.accepts value then .error .usage
  else .ok { g with options := (o.name, value) :: g.options }

def switchOn (g : Given) (o : OptionForm) : Except Stop Given :=
  if o.name = "help" then .error .help
  else if o.name = "version" then .error .version
  else g.take o ""

end Given

structure CommandForm where
  name : String
  options : List OptionForm := []
  operands : List (String → Bool) := []
  build : Given → Option Command

namespace Arguments

def looksLikeOption (arg : String) : Bool := arg.startsWith "-" && arg != "-"

/-- Reads letters after a dash: switches, and perhaps an option with the value behind it. An option
without one waits for it. -/
def readLetters (forms : List OptionForm) : Given → List Char →
    Except Stop (Given × Option OptionForm)
  | g, [] => .ok (g, none)
  | g, c :: cs =>
    match forms.find? (·.letter == some c) with
    | none => .error .usage
    | some o => do
      if o.isSwitch then readLetters forms (← g.switchOn o) cs
      else
        match cs with
        | [] => .ok (g, some o)
        | '=' :: value | value => return (← g.take o (String.ofList value), none)

def readName (forms : List OptionForm) (g : Given) (cs : List Char) :
    Except Stop (Given × Option OptionForm) :=
  let (name, rest) := cs.span (· != '=')
  match forms.find? (·.name == String.ofList name) with
  | none => .error .usage
  | some o =>
    match rest with
    | [] => do if o.isSwitch then return (← g.switchOn o, none) else return (g, some o)
    | _ :: value => do
      if o.isSwitch then .error .usage else return (← g.take o (String.ofList value), none)

def readOption (forms : List OptionForm) (g : Given) (arg : String) :
    Except Stop (Given × Option OptionForm) :=
  match arg.toList with
  | '-' :: '-' :: cs => readName forms g cs
  | cs => readLetters forms g (cs.drop 1)

def addOperand (form : CommandForm) (g : Given) (arg : String) : Except Stop Given :=
  match form.operands[g.operands.length]? with
  | some accepts =>
    if accepts arg then .ok { g with operands := g.operands ++ [arg] } else .error .usage
  | none => .error .usage

/-- Reads the arguments of a command from left to right. The first one may be the value of an option
that waits. -/
def readAll (form : CommandForm) : Given → (waiting : Option OptionForm) → List String →
    Except Stop Given
  | g, none, [] => .ok g
  | _, some _, [] => .error .usage
  | g, some o, arg :: rest => do
    if looksLikeOption arg then .error .usage else readAll form (← g.take o arg) none rest
  | g, none, arg :: rest => do
    if arg = "--" then rest.foldlM (addOperand form) g
    else if looksLikeOption arg then
      let (g, waiting) ← readOption form.options g arg
      readAll form g waiting rest
    else readAll form (← addOperand form g arg) none rest

def integer? (s : String) : Option Int := do
  let n : Int ← match s.toList with
    | '-' :: cs => do some (-(← Text.natural? cs))
    | '+' :: cs => do some (← Text.natural? cs)
    | cs => do some (← Text.natural? cs)
  if fitsSigned 63 n then some n else none

def precision? (s : String) : Option UInt32 := do
  let n ← integer? s
  if 0 ≤ n ∧ n < twoTo 32 then some (UInt32.ofNat n.toNat) else none

def id? (s : String) : Option Int32 := do
  let n ← integer? s
  if fitsSigned 31 n then some (Int32.ofInt n) else none

def rounding? (s : String) : Option Rounding :=
  if s = "round-half" then some .half
  else if s = "round-down" then some .down
  else if s = "round-up" then some .up
  else none

def jsonSwitch : OptionForm := { name := "json", isSwitch := true }

def helpSwitch : OptionForm := { name := "help", letter := some 'h', isSwitch := true }

def versionSwitch : OptionForm := { name := "version", letter := some 'V', isSwitch := true }

def common : List OptionForm := [jsonSwitch, helpSwitch]

def anything (_ : String) : Bool := true

def pair? (g : Given) : Option Pair := do
  return ⟨.ofText (← g.value? "from"), .ofText (← g.value? "to")⟩

def pairOptions : List OptionForm := [{ name := "from" }, { name := "to" }]

def forms : List CommandForm := [
  { name := "rates"
    options := common
    build := fun _ ↦ some .rates },
  { name := "convert"
    options := pairOptions ++ { name := "strict", isSwitch := true } :: common
    operands := [anything]
    build := fun g ↦ do
      return .convert (.ofText (← g.operands.head?)) ((g.value? "from").map .ofText)
        (.ofText (← g.value? "to")) (g.has "strict") },
  { name := "format"
    options :=
      { name := "precision", letter := some 'p', accepts := fun s ↦ (precision? s).isSome } ::
      { name := "rounding", letter := some 'r', accepts := fun s ↦ (rounding? s).isSome } :: common
    operands := [anything]
    build := fun g ↦ do
      return .format (.ofText (← g.operands.head?))
        (((g.value? "precision").bind precision?).getD 0)
        (((g.value? "rounding").bind rounding?).getD .half) },
  { name := "markup"
    options := { name := "fee", letter := some 'f' } :: common
    operands := [anything]
    build := fun g ↦ do return .markup (.ofText (← g.operands.head?)) (← g.value? "fee") },
  { name := "set-rate"
    options := pairOptions ++ { name := "rate" } :: { name := "commission" } :: common
    build := fun g ↦ do
      return .setRate {
        pair := ← pair? g
        rate := .ofText (← g.value? "rate")
        commission := .ofText ((g.value? "commission").getD "0") } },
  { name := "delete-rate"
    options := pairOptions ++ common
    build := fun g ↦ (pair? g).map .deleteRate },
  { name := "set-default"
    options := common
    operands := [fun s ↦ (id? s).isSome]
    build := fun g ↦ do return .setDefault (← id? (← g.operands.head?)) },
  { name := "init"
    options := { name := "path", accepts := fun s ↦ !s.isEmpty } :: common
    build := fun g ↦ some (.init (g.value? "path")) }]

def form? (name : String) : Option CommandForm := forms.find? (·.name == name)

def helpOn : (names : List String) → Stop
  | [] => .help
  | [name] => if (form? name).isSome || name == "help" then .help else .usage
  | _ => .usage

def read (g : Given) : List String → Except Stop Invocation
  | [] => .error .usage
  | arg :: rest => do
    match form? arg with
    | some form =>
      let given ← readAll form {} none rest
      match form.build given with
      | some command => return ⟨command, g.has jsonSwitch.name || given.has jsonSwitch.name⟩
      | none => .error .usage
    | none =>
      if arg = "help" then .error (helpOn rest)
      else if looksLikeOption arg && arg != "--" then
        let (g, _) ← readOption (versionSwitch :: common) g arg
        read g rest
      else .error .usage

end Arguments

def Invocation.ofArguments (args : List String) : Except Stop Invocation := Arguments.read {} args

end Forex
