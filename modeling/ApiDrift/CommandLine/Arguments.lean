import ApiDrift.CommandLine.Usage

/-!
# Arguments

Arguments are switches and operands. A switch stands for itself or takes a value, which follows it
or an equals sign; letters can be joined behind one mark. Two marks alone end the switches. Before
the command the first operand ends them, too; after it they may stand anywhere.
-/

namespace ApiDrift.CommandLine

/-- The switches that are given, in order and with their values, and the operands. -/
structure Given where
  switches : List (Switch × Option String) := []
  operands : List String := []
deriving DecidableEq, Repr

namespace Given

def addSwitch (g : Given) (s : Switch) (value : Option String) : Given :=
  { g with switches := (s, value) :: g.switches }

def addOperand (g : Given) (operand : String) : Given :=
  { g with operands := operand :: g.operands }

/-- Whether a switch is given. -/
def has (g : Given) (s : Switch) : Bool := g.switches.any fun e => e.1 = s

/-- The value of a switch, the last one where it is given more than once. -/
def value? (g : Given) (s : Switch) : Option String :=
  (List.lookup s g.switches.reverse).join

/-- The switches that are given, each once and in the order in which they came first. -/
def distinct (g : Given) : List Switch := (g.switches.map (·.1)).eraseDups

end Given

/-- An argument that is one switch to be given a value, or switches that take none. -/
inductive SwitchArgument where
  | awaiting (s : Switch) (attached : Option String)
  | plain (ss : List Switch)
deriving DecidableEq, Repr

/-- An argument before and after its first equals sign. -/
def splitValue (text : String) : String × Option String :=
  let cs := text.toList
  let name := String.ofList (cs.takeWhile (· != '='))
  match cs.dropWhile (· != '=') with
  | _ :: rest => (name, some (String.ofList rest))
  | [] => (name, none)

/-- The switches that letters stand for. -/
def letterSwitches (known : List Switch) (letters : List Char) : Except Misuse (List Switch) :=
  letters.mapM fun l =>
    match known.find? fun s => s.letter? = some l with
    | some s => .ok s
    | none => .error (.unknownSwitch (String.ofList ['-', l]) known)

/-- What an argument that begins with a mark stands for. -/
def readSwitch (known : List Switch) (text : String) : Except Misuse SwitchArgument :=
  let (name, attached) := splitValue text
  match known.find? fun s => s.name = name with
  | some s =>
    if s.takesValue then .ok (.awaiting s attached)
    else if attached.isSome then .error (.valueUnexpected s)
    else .ok (.plain [s])
  | none =>
    if "--".toList.isPrefixOf text.toList then .error (.unknownSwitch name known)
    else return .plain (← letterSwitches known (text.toList.drop 1))

/-- Whether an argument is read as a switch. -/
def isSwitch (text : String) : Bool := "-".toList.isPrefixOf text.toList && 1 < text.length

/-- Sorts arguments into switches and operands. -/
def readArguments (known : List Switch) (anywhere : Bool) : List String → Except Misuse Given
  | [] => .ok {}
  | arg :: rest =>
    if arg = "--" then .ok { operands := rest }
    else if isSwitch arg then do
      match ← readSwitch known arg with
      | .plain ss =>
        let g ← readArguments known anywhere rest
        return ss.foldr (fun s g => g.addSwitch s none) g
      | .awaiting s (some value) =>
        let g ← readArguments known anywhere rest
        return g.addSwitch s (some value)
      | .awaiting s none =>
        match rest with
        | [] => throw (.valueMissing s)
        | value :: rest =>
          let g ← readArguments known anywhere rest
          return g.addSwitch s (some value)
    else if anywhere then do
      let g ← readArguments known anywhere rest
      return g.addOperand arg
    else .ok { operands := arg :: rest }

end ApiDrift.CommandLine
