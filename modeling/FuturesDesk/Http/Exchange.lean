import FuturesDesk.Http.Header

/-!
# Requests and their answers

A request is answered by a peer, if one can be reached. The outcome is what the
answer stands for, or which part of the exchange failed.
-/

namespace FuturesDesk.Http

inductive Verb where
  | get | post
deriving DecidableEq, Repr

def Verb.name : Verb → String
  | .get => "GET"
  | .post => "POST"

structure Request where
  verb : Verb
  /-- Path and query. -/
  target : String
  apiKey : Option String := none

structure Response where
  status : Nat := 200
  body : ByteArray

/-- What becomes of a request that is sent. -/
inductive Peer where
  | unreachable
  /-- The request arrives and the connection is closed without an answer. -/
  | silent
  | answers (r : Response)

inductive Problem where
  /-- Not sent, or not answered. -/
  | failed
  /-- Answered with an error. -/
  | refused
  /-- Answered with something else than asked for. -/
  | unreadable
deriving DecidableEq, Repr

def Problem.message (service path : String) : Problem → String
  | .failed => service ++ " request " ++ path ++ " failed"
  | .refused => service ++ " " ++ path ++ " HTTP error"
  | .unreadable => service ++ " " ++ path ++ " returned invalid JSON"

structure Outcome (α : Type) where
  /-- The request as the peer saw it. -/
  request : Option Request
  result : Except Problem α

namespace Response

def isError (r : Response) : Bool := 400 ≤ r.status && r.status < 600

/-- Some statuses come without a body. -/
def content (r : Response) : ByteArray := if r.status = 204 || r.status = 304 then ByteArray.empty else r.body

/-- The content as text, if it is one. -/
def text? (r : Response) : Option String := String.fromUTF8? r.content

end Response

def Request.canBeSent (q : Request) : Bool := q.apiKey.all isHeaderValue

/-- What an answer stands for. -/
def interpret {α : Type} (read : String → Option α) (r : Response) : Except Problem α :=
  if r.isError then .error .refused
  else match r.text?.bind read with
    | some a => .ok a
    | none => .error .unreadable

def exchange {α : Type} (peer : Peer) (q : Request) (read : String → Option α) : Outcome α :=
  if q.canBeSent then
    match peer with
    | .unreachable => ⟨none, .error .failed⟩
    | .silent => ⟨some q, .error .failed⟩
    | .answers r => ⟨some q, interpret read r⟩
  else ⟨none, .error .failed⟩

/-- An address without slashes at its end. -/
def trimSlashes (s : String) : String := String.ofList (s.toList.reverse.dropWhile (· = '/')).reverse

end FuturesDesk.Http
