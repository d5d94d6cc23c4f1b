import Ecommerce.Lib.Json
import Ecommerce.Lib.Runs
import Ecommerce.Shared.Errors
import Mathlib.Logic.Function.Basic

/-! A connected RPC client: calls, the timers they arm and the replies that answer them. -/

namespace Ecommerce

structure RPCOptions where
  timeout : Option Nat := none
  persistent : Option Bool := none

structure QueuedMessage where
  queue : String
  content : List Char
  correlationId : String
  replyTo : String
  persistent : Bool

/-- An entry of `pendingRPCs`: the call that its `resolve` and `reject` settle, and the handle of
its timer. -/
structure PendingRPC where
  call : Nat
  timeout : Nat
  deriving DecidableEq

structure Timer where
  handle : Nat
  delay : Nat
  correlationId : String
  call : Nat
  deriving DecidableEq

structure RabbitMQClient where
  replyQueue : String
  pendingRPCs : String → Option PendingRPC
  timers : List Timer
  sent : List QueuedMessage
  /-- Every invocation of a `resolve` or `reject`, with the call it belongs to. -/
  settled : List (Nat × Except Error Json)
  /-- How many calls have been made; the next one, and its timer, get this number. -/
  calls : Nat

inductive ClientEvent
  | rpcCall (correlationId queue : String) (message : Json) (options : RPCOptions)
  | timer (handle : Nat)
  | message (correlationId : Option String) (content : String)

namespace RabbitMQClient

def connect (replyQueue : String) : RabbitMQClient := ⟨replyQueue, fun _ => none, [], [], [], 0⟩

def setTimeout (delay : Nat) (correlationId : String) (c : RabbitMQClient) : RabbitMQClient :=
  { c with timers := c.timers ++ [⟨c.calls, delay, correlationId, c.calls⟩] }

def clearTimeout (handle : Nat) (c : RabbitMQClient) : RabbitMQClient :=
  { c with timers := c.timers.filter fun t => t.handle ≠ handle }

def set (correlationId : String) (pending : PendingRPC) (c : RabbitMQClient) : RabbitMQClient :=
  { c with pendingRPCs := Function.update c.pendingRPCs correlationId (some pending) }

def delete (correlationId : String) (c : RabbitMQClient) : RabbitMQClient :=
  { c with pendingRPCs := Function.update c.pendingRPCs correlationId none }

def settle (call : Nat) (r : Except Error Json) (c : RabbitMQClient) : RabbitMQClient :=
  { c with settled := c.settled ++ [(call, r)] }

def sendToQueue (queue : String) (message : Json) (correlationId : String)
    (persistent : Option Bool) (c : RabbitMQClient) : RabbitMQClient :=
  { c with
    sent := c.sent ++
      [⟨queue, message.stringify, correlationId, c.replyQueue, persistent ≠ some false⟩] }

/-- `options.timeout || 30000`. -/
def timeoutOf (options : RPCOptions) : Nat :=
  if options.timeout.getD 0 = 0 then 30000 else options.timeout.getD 0

def rpcCall (correlationId queue : String) (message : Json) (options : RPCOptions)
    (c : RabbitMQClient) : RabbitMQClient :=
  let c' := ((c.setTimeout (timeoutOf options) correlationId).set correlationId
    ⟨c.calls, c.calls⟩).sendToQueue queue message correlationId options.persistent
  { c' with calls := c.calls + 1 }

def fire (handle : Nat) (c : RabbitMQClient) : RabbitMQClient :=
  match c.timers.find? fun t => t.handle = handle with
  | none => c
  | some t =>
    ((c.clearTimeout handle).delete t.correlationId).settle t.call (.error (.plain "RPC timeout"))

/-- What a reply settles its call with. -/
def answer (parse : String → Except Error Json) (content : String) : Except Error Json := do
  let response ← parse content
  let error ← (response.get "error").mapError .plain
  if (error.getD .null).truthy then
    let message ← ((error.getD .null).display).mapError .plain
    throw (.plain (String.ofList message))
  else
    return response

def handleRPCResponse (parse : String → Except Error Json) (correlationId : Option String)
    (content : String) (c : RabbitMQClient) : RabbitMQClient :=
  match correlationId with
  | none => c
  | some correlationId =>
    match c.pendingRPCs correlationId with
    | none => c
    | some pending =>
      ((c.clearTimeout pending.timeout).delete correlationId).settle pending.call
        (answer parse content)

/-- `parse` is `JSON.parse`. -/
def step (parse : String → Except Error Json) (c : RabbitMQClient) : ClientEvent → RabbitMQClient
  | .rpcCall correlationId queue message options => c.rpcCall correlationId queue message options
  | .timer handle => c.fire handle
  | .message correlationId content => c.handleRPCResponse parse correlationId content

end RabbitMQClient

end Ecommerce
