import PageScript.Json.Shape

/-! Attaching to a browser that runs already: the endpoint on its debugging port tells the address
of a web socket, which is then opened once. -/
namespace PageScript.Browser

structure Reply where
  status : Nat
  body : String
  deriving DecidableEq, Repr

abbrev Endpoint := String → Reply

structure Ask where
  path : String
  upgrade : Bool
  deriving DecidableEq, Repr

def Ask.line (ask : Ask) : String := "GET " ++ ask.path ++ (if ask.upgrade then " upgrade" else "")

def versionPath : String := "/json/version"

def socketKey : String := "webSocketDebuggerUrl"

def Reply.socket? (reply : Reply) : Option String :=
  if reply.status < 200 || 300 ≤ reply.status then none
  else (Json.readField socketKey Json.wantString reply.body).toOption

def socketPath? (port : Nat) (address : String) : Option String :=
  let origin := s!"ws://127.0.0.1:{port}".toList
  let cs := address.toList.takeWhile (· ≠ '#')
  if !origin.isPrefixOf cs then none
  else match cs.drop origin.length with
    | [] => some "/"
    | c :: rest => if c = '/' then some (String.ofList (c :: rest)) else none

def asks (port : Nat) : Option Endpoint → List Ask
  | none => []
  | some endpoint =>
    let opened := ((endpoint versionPath).socket?.bind (socketPath? port)).map (Ask.mk · true)
    ⟨versionPath, false⟩ :: opened.toList

end PageScript.Browser
