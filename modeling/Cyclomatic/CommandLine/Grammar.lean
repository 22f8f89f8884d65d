import Cyclomatic.Number.Literal
import Cyclomatic.Value

/-!
# Reading command lines

A grammar says which options and operands a command line may have. Long options may be shortened as
long as they stay unambiguous, one-letter options may be written together, and a value may follow its
option directly, after an equals sign or as the next argument. Everything after a double hyphen is an
operand. All operands stand together; what comes later, and what is unknown, is left over. A double
hyphen is never a value: in the place of one it stands for an empty list.
-/

namespace Cyclomatic.CommandLine

/-! ## Grammars -/

/-- What an option does. Flags, and the requests for help and version, take no value. -/
inductive Action (α : Type) where
  | flag (set : α → α)
  | text (choices : List String) (set : Value → α → α)
  | integer (set : Value → α → α)
  | help
  | version

/-- An option with its names. -/
structure OptionSpec (α : Type) where
  names : List String
  action : Action α
  required : Bool := false

/-- What operands are: not allowed, a list, or a command with arguments of its own. -/
inductive Operands (α : Type) where
  | nothing
  | list (set : List String → α → α)
  | command (names : List String) (set : String → List String → α → α)

/-- The options and operands that a command line may have, and the program that it is for. -/
structure Grammar (α : Type) where
  program : String
  options : List (OptionSpec α)
  operands : Operands α := .nothing

/-! ## Misuse -/

/-- What is wrong with an argument of an option. -/
inductive Problem where
  | valueMissing
  | valueIgnored (value : String)
  | notInteger (value : String)
  | notChoice (value : String) (choices : List String)
deriving DecidableEq, Repr

/-- The wording of a problem. -/
def Problem.message : Problem → String
  | valueMissing => "expected one argument"
  | valueIgnored value => "ignored explicit argument " ++ Text.quoted value
  | notInteger value => "invalid int value: " ++ Text.quoted value
  | notChoice value choices =>
    "invalid choice: " ++ Text.quoted value ++ " (choose from " ++
      ", ".intercalate (choices.map Text.quoted) ++ ")"

/-- What is wrong with a command line. -/
inductive Misuse where
  | argument (name : String) (problem : Problem)
  | ambiguous (given : String) (candidates : List String)
  | missing (names : List String)
  | unrecognized (arguments : List String)
deriving DecidableEq, Repr

/-- The wording of a misuse. -/
def Misuse.message : Misuse → String
  | argument name problem => "argument " ++ name ++ ": " ++ problem.message
  | ambiguous given candidates =>
    "ambiguous option: " ++ given ++ " could match " ++ ", ".intercalate candidates
  | missing names => "the following arguments are required: " ++ ", ".intercalate names
  | unrecognized arguments => "unrecognized arguments: " ++ " ".intercalate arguments

/-- Why reading a command line stops early. -/
inductive Stop where
  | help (program : String)
  | version
  | misuse (program : String) (m : Misuse)
deriving DecidableEq, Repr

namespace OptionSpec

variable {α : Type}

/-- An option as messages name it. -/
def shown (o : OptionSpec α) : String :=
  "/".intercalate o.names

/-- Whether an option takes a value. -/
def takesValue (o : OptionSpec α) : Bool :=
  match o.action with
  | .text .. | .integer _ => true
  | .flag _ | .help | .version => false

end OptionSpec

/-! ## Marking arguments -/

/-- What an argument is. -/
inductive Mark (α : Type) where
  | operand
  | separator
  /-- An option by one of its names, with the text that is written together with it. -/
  | option (spec : OptionSpec α) (name : String) (attached : Option String)
  | unknown

/-- Whether an argument is an option, known or not. -/
def Mark.isOption {α : Type} : Mark α → Bool
  | operand | separator => false
  | option .. | unknown => true

/-- Whether a text is a negative number. -/
def isNegativeNumber (cs : List Char) : Bool :=
  match cs with
  | '-' :: digits =>
    match digits.dropWhile Text.isDigit with
    | [] => !digits.isEmpty
    | '.' :: more => !more.isEmpty && more.all Text.isDigit
    | _ => false
  | _ => false

/-- Whether a text is a negative number, with or without a line feed after it. -/
def looksNegative (cs : List Char) : Bool :=
  isNegativeNumber (if cs.getLast? = some '\n' then cs.dropLast else cs)

/-- The part before the first equals sign, and the part after it if there is one. -/
def splitEquals (cs : List Char) : List Char × Option String :=
  (cs.takeWhile (· != '='),
   match cs.dropWhile (· != '=') with
   | [] => none
   | _ :: value => some (String.ofList value))

namespace Grammar

variable {α : Type}

/-- The option with a name. -/
def find? (g : Grammar α) (name : String) : Option (OptionSpec α) :=
  g.options.find? (·.names.contains name)

/-- The options with each of their names. -/
def named (g : Grammar α) : List (String × OptionSpec α) :=
  g.options.flatMap fun o => o.names.map (·, o)

/-- What an argument with an unknown name may stand for: a long option that it shortens, or a
one-letter option with a value or further options joined to it. -/
def candidates (g : Grammar α) (arg : List Char) :
    List (OptionSpec α × String × Option String) :=
  match arg with
  | '-' :: '-' :: _ =>
    let (name, attached) := splitEquals arg
    g.named.filterMap fun (n, o) =>
      if name.isPrefixOf n.toList then some (o, n, attached) else none
  | _ =>
    g.named.filterMap fun (n, o) =>
      if n.toList = arg.take 2 then some (o, n, some (String.ofList (arg.drop 2)))
      else if arg.isPrefixOf n.toList then some (o, n, none)
      else none

/-- What an argument is. -/
def mark (g : Grammar α) (arg : String) : Except Misuse (Mark α) :=
  let cs := arg.toList
  if cs.head? ≠ some '-' then .ok .operand
  else
    match g.find? arg with
    | some spec => .ok (.option spec arg none)
    | none =>
      if cs.length = 1 then .ok .operand
      else
        let name := String.ofList (splitEquals cs).1
        match g.find? name, (splitEquals cs).2 with
        | some spec, some value => .ok (.option spec name (some value))
        | _, _ =>
          match g.candidates cs with
          | [(spec, name, attached)] => .ok (.option spec name attached)
          | [] => .ok (if looksNegative cs || cs.contains ' ' then .operand else .unknown)
          | several => .error (.ambiguous arg (several.map (·.2.1)))

/-- Marks all arguments. -/
def markAll (g : Grammar α) : List String → Except Misuse (List (String × Mark α))
  | [] => .ok []
  | arg :: rest =>
    if arg = "--" then .ok ((arg, .separator) :: rest.map (·, .operand))
    else do return (arg, ← g.mark arg) :: (← markAll g rest)

/-! ## Using options -/

/-- A use of an option, with its value. -/
structure Use (α : Type) where
  spec : OptionSpec α
  value : Option String := none

/-- How an argument with options ends. -/
inductive Ending (α : Type) where
  | complete
  /-- The next argument is the value of an option. -/
  | wantsValue (spec : OptionSpec α)

/-- The problem of an option. -/
def problem (spec : OptionSpec α) (p : Problem) : Misuse :=
  .argument spec.shown p

/-- The uses in a one-letter option with a text joined to it: a value, or further one-letter
options. -/
def together (g : Grammar α) (spec : OptionSpec α) :
    List Char → Except Misuse (List (Use α) × Ending α)
  | [] => .ok (if spec.takesValue then ([], .wantsValue spec) else ([⟨spec, none⟩], .complete))
  | c :: cs =>
    if spec.takesValue then .ok ([⟨spec, some (String.ofList (c :: cs))⟩], .complete)
    else
      match g.find? (String.ofList ['-', c]) with
      | none => .error (problem spec (.valueIgnored (String.ofList (c :: cs))))
      | some next => do
        let (uses, ending) ← together g next cs
        return (⟨spec, none⟩ :: uses, ending)

/-- Whether a name is that of a one-letter option. -/
def isShort (name : String) : Bool :=
  name.toList[1]? != some '-'

/-- The uses in an option as it is written. -/
def uses (g : Grammar α) (spec : OptionSpec α) (name : String) :
    Option String → Except Misuse (List (Use α) × Ending α)
  | none => g.together spec []
  | some text =>
    if spec.takesValue then .ok ([⟨spec, some text⟩], .complete)
    else if isShort name && !text.isEmpty then g.together spec text.toList
    else .error (problem spec (.valueIgnored text))

/-- The value that an argument gives. -/
def valueOf (read : String → Option Value) (arg : String) : Option Value :=
  if arg = "--" then some (.list []) else read arg

/-- The integer that an argument is. -/
def integerOf? (arg : String) : Option Value :=
  (Literal.integer 10 arg).toOption.map .int

/-- Carries out a use. -/
def use (g : Grammar α) (a : α) (u : Use α) : Except Stop α :=
  match u.spec.action, u.value with
  | .flag set, _ => .ok (set a)
  | .help, _ => .error (.help g.program)
  | .version, _ => .error .version
  | .text choices set, some arg =>
    let isChoice := choices.isEmpty || choices.contains arg
    match valueOf (fun s => if isChoice then some (.text s) else none) arg with
    | some v => .ok (set v a)
    | none => .error (.misuse g.program (problem u.spec (.notChoice arg choices)))
  | .integer set, some arg =>
    match valueOf integerOf? arg with
    | some v => .ok (set v a)
    | none => .error (.misuse g.program (problem u.spec (.notInteger arg)))
  | _, none => .error (.misuse g.program (problem u.spec .valueMissing))

/-! ## Reading -/

/-- How far reading has come. -/
structure Progress (α : Type) where
  arguments : α
  /-- Whether the operands have been read. -/
  operandsRead : Bool := false
  extras : List String := []
  /-- The options that were used. -/
  used : List String := []

namespace Progress

/-- Carries out some uses. -/
def useAll (g : Grammar α) (p : Progress α) (us : List (Use α)) : Except Stop (Progress α) := do
  let arguments ← us.foldlM g.use p.arguments
  return { p with arguments, used := p.used ++ us.map (·.spec.shown) }

/-- Leaves arguments over. -/
def leave (p : Progress α) (args : List String) : Progress α :=
  { p with extras := p.extras ++ args }

end Progress

/-- Turns a misuse into a stop. -/
def orStop {β : Type} (g : Grammar α) : Except Misuse β → Except Stop β
  | .ok b => .ok b
  | .error m => .error (.misuse g.program m)

/-- Reads an option with the arguments after it: the progress, and whether the next argument was its
value. -/
def readOption (g : Grammar α) (p : Progress α) (spec : OptionSpec α) (name : String)
    (attached : Option String) (next : Option (String × Mark α)) :
    Except Stop (Progress α × Bool) := do
  let (us, ending) ← g.orStop (g.uses spec name attached)
  match ending with
  | .complete => return (← p.useAll g us, false)
  | .wantsValue last =>
    match next with
    | some (value, .operand) => return (← p.useAll g (us ++ [⟨last, some value⟩]), true)
    | _ => throw (.misuse g.program (problem last .valueMissing))

/-- The first arguments that are no options. -/
def leadingOperands (args : List (String × Mark α)) : List (String × Mark α) :=
  args.takeWhile (!·.2.isOption)

/-- The arguments from the first option on. -/
def afterOperands (args : List (String × Mark α)) : List (String × Mark α) :=
  args.dropWhile (!·.2.isOption)

/-- Reads marked arguments. -/
def readAll (g : Grammar α) (p : Progress α) (args : List (String × Mark α)) :
    Except Stop (Progress α) :=
  match args with
  | [] => .ok p
  | (arg, .unknown) :: rest => readAll g (p.leave [arg]) rest
  | (_, .option spec name attached) :: rest => do
    let (p, usedNext) ← g.readOption p spec name attached rest.head?
    readAll g p (if usedNext then rest.drop 1 else rest)
  | (arg, m) :: rest =>
    let operands := arg :: (leadingOperands rest).map (·.1)
    let others := afterOperands rest
    match p.operandsRead, g.operands with
    | false, .list set =>
      let given := operands.erase "--"
      let arguments := if given.isEmpty then p.arguments else set given p.arguments
      readAll g { p with arguments, operandsRead := true } others
    | false, .command names set =>
      if m matches .separator ∧ rest.isEmpty then .ok (p.leave [arg])
      else if names.contains arg then
        .ok { p with arguments := set arg (rest.map (·.1)) p.arguments, operandsRead := true }
      else .error (.misuse g.program (.argument "command" (.notChoice arg names)))
    | _, _ => readAll g (p.leave operands) others
termination_by args.length
decreasing_by
  all_goals
    simp only [List.length_cons, afterOperands]
    try split
    all_goals try simp only [List.length_drop]
    all_goals
      first
      | omega
      | exact Nat.lt_succ_of_le (List.dropWhile_suffix _).length_le

/-- The arguments of a command line, and what is left over. -/
def parse (g : Grammar α) (defaults : α) (args : List String) :
    Except Stop (α × List String) := do
  let marked ← g.orStop (g.markAll args)
  let p ← g.readAll { arguments := defaults } marked
  let missing := (g.options.filter fun o => o.required && !p.used.contains o.shown).map (·.shown)
  if missing.isEmpty then return (p.arguments, p.extras)
  else throw (.misuse g.program (.missing missing))

end Grammar

end Cyclomatic.CommandLine
