import TraceTally.Session

/-! The program: a session on the current directory. -/
namespace TraceTally

/-- The fault for a code of the system. Some calls give the code with its sign turned. -/
def ReadFault.ofCode (code : UInt32) (details : String) : ReadFault :=
  match if code < 0x80000000 then code else -code with
  | 2 => .notFound
  | 20 => .notDirectory
  | 21 => .isDirectory
  | 36 => .nameTooLong
  | code => .other (details ++ " (os error " ++ toString code ++ ")")

/-- Why the system did not give a file. -/
def ReadFault.ofSystem : IO.Error → ReadFault
  | .noFileOrDirectory .. => .notFound
  | .inappropriateType _ code details => .ofCode code details
  | .invalidArgument _ code details => .ofCode code details
  | .resourceExhausted _ code details => .ofCode code details
  | .permissionDenied _ code details => .ofCode code details
  | .otherError code details => .ofCode code details
  | e => .other (toString e)

/-- The text of a file of the system. -/
def readFile (path : String) : IO (Except ReadFault String) := do
  if path.contains '\x00' then return .error .nulInName
  try
    match String.fromUTF8? (← IO.FS.readBinFile path) with
    | some s => return .ok s
    | none => return .error .invalidText
  catch e => return .error (.ofSystem e)

end TraceTally

def main (args : List String) : IO UInt32 := do
  let filter := (← IO.getEnv "RUST_LOG").getD ""
  let outcome ← TraceTally.Session.start TraceTally.readFile filter args
  (← IO.getStdout).putStr outcome.stdout
  (← IO.getStderr).putStr outcome.stderr
  return outcome.exit.toUInt32
