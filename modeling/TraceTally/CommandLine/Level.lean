import TraceTally.CommandLine.Basic

/-! Options are read at two levels, before and after the command, by the same rules. -/
namespace TraceTally.CommandLine

/-- An argument by its shape. -/
inductive Word where
  | escape
  | long (name : String) (value : Option String)
  | shorts (letters : List Char)
  | plain
  deriving DecidableEq

/-- Two dashes alone end the options; a dash alone is a plain word. -/
def Word.ofArgument (arg : String) : Word :=
  match arg.toList with
  | ['-', '-'] => .escape
  | '-' :: '-' :: cs =>
    let name := String.ofList (cs.takeWhile (· != '='))
    match cs.dropWhile (· != '=') with
    | [] => .long name none
    | _ :: value => .long name (some (String.ofList value))
  | '-' :: c :: cs => .shorts (c :: cs)
  | _ => .plain

/-- What a level was given. -/
structure Given where
  input : Option String := none
  config : Option String := none
  format : Option Format := none
  summary : Bool := false
  debug : Bool := false
  deriving DecidableEq

/-- The last option that takes a value, as long as it has not been looked at. -/
inductive Pending where
  | nothing
  | waiting (s : Setting)
  | holding (s : Setting) (value : String)
  deriving DecidableEq

structure Level where
  given : Given := {}
  pending : Pending := .nothing
  deriving DecidableEq

namespace Given

/-- Gives an option its value. That it was given before matters more than what the value is. -/
def assign (g : Given) (s : Setting) (value : String) : Except Reply Given :=
  match s with
  | .input =>
    if g.input.isSome then .error (.fault (.repeated (.setting s)))
    else if value = "" then .error (.fault (.missingValue s))
    else .ok { g with input := some value }
  | .config =>
    if g.config.isSome then .error (.fault (.repeated (.setting s)))
    else if value = "" then .error (.fault (.missingValue s))
    else .ok { g with config := some value }
  | .format =>
    if g.format.isSome then .error (.fault (.repeated (.setting s)))
    else if value = "" then .error (.fault (.missingValue s))
    else match Format.ofName? value with
      | some f => .ok { g with format := some f }
      | none => .error (.fault (.badFormat value))

def raise (g : Given) (f : Flag) : Except Reply Given :=
  match f with
  | .summary =>
    if g.summary then .error (.fault (.repeated (.flag f))) else .ok { g with summary := true }
  | .debug =>
    if g.debug then .error (.fault (.repeated (.flag f))) else .ok { g with debug := true }

end Given

namespace Level

/-- Looks at the option that is pending. -/
def settle (l : Level) : Except Reply Level :=
  match l.pending with
  | .nothing => .ok l
  | .waiting s => .error (.fault (.missingValue s))
  | .holding s value => do return { given := ← l.given.assign s value }

/-- Reads one option. A value that the option does not take is refused before anything else; all
that can be read first settles what is pending. -/
def option (l : Level) (level : Topic) (o : Opt) (long : Bool) (attached : Option String) :
    Except Reply Level :=
  match o, attached with
  | .setting s, none => do return { (← l.settle) with pending := .waiting s }
  | .setting s, some value => do
    let l ← l.settle
    return { l with given := ← l.given.assign s value }
  | .flag f, none => do
    let l ← l.settle
    return { l with given := ← l.given.raise f }
  | .help, none => do
    let _ ← l.settle
    throw (.help level long)
  | .version, none => do
    let _ ← l.settle
    throw .version
  | o, some value => .error (.fault (.unwantedValue o value))

/-- The value that letters after an option are, without the equals sign that may stand before it. -/
def attached? : List Char → Option String
  | [] => none
  | '=' :: cs => some (String.ofList cs)
  | cs => some (String.ofList cs)

/-- Reads letters after one dash, up to the first that takes a value. -/
def letters (l : Level) (level : Topic) : List Char → Except Reply Level
  | [] => .ok l
  | c :: cs =>
    match Opt.ofShort? level c with
    | none => .error (.fault (.unexpected (String.ofList ['-', c])))
    | some (.setting s) => l.option level (.setting s) false (attached? cs)
    | some o => do (← l.option level o false none).letters level cs

/-- Reads a long option. -/
def named (l : Level) (level : Topic) (name : String) (value : Option String) :
    Except Reply Level :=
  match Opt.ofLong? level name with
  | none => .error (.fault (.unexpected ("--" ++ name)))
  | some o => l.option level o true value

end Level

end TraceTally.CommandLine
