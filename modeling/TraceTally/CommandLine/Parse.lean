import TraceTally.CommandLine.Level

/-! Reading a command line. -/
namespace TraceTally.CommandLine

/-- The selector and what else may stand after the options of a command. Only `paired` takes a word,
and only one. -/
def readWord (l : Level) (level : Topic) (selector : Option String) (word : String) :
    Except Reply (Level × Option String) :=
  if level = .paired ∧ selector.isNone then do return (← l.settle, some word)
  else .error (.fault (.unexpected word))

/-- The end of a command: what is pending is looked at, and `paired` needs its selector. -/
def finishCommand (l : Level) (level : Topic) (selector : Option String) :
    Except Reply (Given × Command) := do
  let l ← l.settle
  match level, selector with
  | .paired, some s => return (l.given, .paired s)
  | .paired, none => throw (.fault .missingSelector)
  | _, _ => return (l.given, .single)

/-- Arguments after two dashes are words, whatever they look like. -/
def readWords (l : Level) (level : Topic) (selector : Option String) :
    List String → Except Reply (Given × Command)
  | [] => finishCommand l level selector
  | arg :: args => do
    let (l, selector) ← readWord l level selector arg
    readWords l level selector args

/-- Arguments after the command. -/
def readCommand (l : Level) (level : Topic) (selector : Option String) :
    List String → Except Reply (Given × Command)
  | [] => finishCommand l level selector
  | arg :: args =>
    match Word.ofArgument arg with
    | .escape => readWords l level selector args
    | .long name value => do readCommand (← l.named level name value) level selector args
    | .shorts cs => do readCommand (← l.letters level cs) level selector args
    | .plain =>
      match l.pending with
      | .waiting s => readCommand { l with pending := .holding s arg } level selector args
      | _ => do
        let (l, selector) ← readWord l level selector arg
        readCommand l level selector args

/-- What `help` answers. Commands have no commands of their own. -/
def helpReply : List String → Reply
  | [] => .help .program true
  | word :: words =>
    match Topic.ofCommand? word, words with
    | none, _ => .fault (.unknownCommand word)
    | some topic, [] => .help topic true
    | some _, next :: _ => .fault (.unknownCommand next)

/-- What was given after the command goes before what was given in front of it. -/
def Invocation.ofLevels (outer inner : Given) (command : Command) : Invocation where
  input := inner.input <|> outer.input
  config := inner.config <|> outer.config
  format := (inner.format <|> outer.format).getD .text
  summary := inner.summary || outer.summary
  debug := inner.debug || outer.debug
  command := command

/-- The end of the arguments without a command. -/
def finishProgram (l : Level) : Except Reply Invocation := do
  let l ← l.settle
  throw (.fault (if l.given = {} then .nothingGiven else .missingCommand))

/-- Arguments from a command on. The level in front of it is settled last. -/
def readFrom (outer : Level) (level : Topic) (args : List String) : Except Reply Invocation :=
  match level with
  | .help => .error (helpReply args)
  | level => do
    let (inner, command) ← readCommand {} level none args
    let outer ← outer.settle
    return .ofLevels outer.given inner command

/-- Arguments in front of the command. A word is a command unless an option waits for its value. -/
def readProgram (l : Level) : List String → Except Reply Invocation
  | [] => finishProgram l
  | arg :: args =>
    match Word.ofArgument arg with
    | .escape =>
      match args with
      | [] => finishProgram l
      | word :: _ =>
        .error (.fault (if (Topic.ofCommand? word).isSome then .unexpected word
          else .unknownCommand word))
    | .long name value => do readProgram (← l.named .program name value) args
    | .shorts cs => do readProgram (← l.letters .program cs) args
    | .plain =>
      match l.pending with
      | .waiting s => readProgram { l with pending := .holding s arg } args
      | _ =>
        match Topic.ofCommand? arg with
        | some level => readFrom l level args
        | none => .error (.fault (.unknownCommand arg))

def parse (args : List String) : Except Reply Invocation := readProgram {} args

end TraceTally.CommandLine
