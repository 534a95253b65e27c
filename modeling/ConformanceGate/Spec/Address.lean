import ConformanceGate.Failure
import ConformanceGate.Text.Decimal
import ConformanceGate.Text.Split

/-!
# Addresses in websocket urls

A url names the host and the port to connect to. What follows the authority does not matter, and a
missing port stands for the usual one of the scheme.
-/

namespace ConformanceGate.Spec

/-- The rest of a url after its scheme, and the usual port of the scheme. -/
def scheme? (url : List Char) : Option (List Char × String) :=
  match Text.after? "ws://".toList url with
  | some rest => some (rest, "80")
  | none => (Text.after? "wss://".toList url).map fun rest => (rest, "443")

def endsAuthority (c : Char) : Bool := c == '/' || c == '?' || c == '#'

/-- The text after the last closing bracket that a colon follows. -/
def portAfterBracket? : List Char → Option (List Char)
  | [] => none
  | c :: cs =>
    match portAfterBracket? cs with
    | some port => some port
    | none => if c = ']' ∧ cs.head? = some ':' then some (cs.drop 1) else none

/-- The `host:port` that a websocket url names. A host in brackets may hold colons of its own. -/
def socketAddress (url : String) : Except Flaw String :=
  match scheme? url.toList with
  | none => .error (.noWebsocket url)
  | some (rest, usualPort) =>
    let authority := rest.takeWhile fun c => !endsAuthority c
    let given (port : List Char) : Except Flaw String :=
      match Text.port? port with
      | some _ => .ok (String.ofList authority)
      | none => .error (.badPort url)
    let completed : Except Flaw String := .ok (String.ofList authority ++ ":" ++ usualPort)
    match authority with
    | [] => .error (.noHost url)
    | '[' :: _ => (portAfterBracket? authority).elim completed given
    | _ =>
      match Text.splitLast? ':' authority with
      | none => completed
      | some ([], _) => .error (.noHost url)
      | some (_, port) => given port

end ConformanceGate.Spec
