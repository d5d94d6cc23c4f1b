import Ecommerce.Gateway.Messaging
import Ecommerce.Shared.RabbitMQClient

/-! A mutating call of the gateway and the messages it gives rise to: its requests in the server's
queue, the replies on their way back, and the timer of the call it waits for. -/

namespace Ecommerce

/-- The gateway's calls that change the catalogue. -/
inductive Mutation
  | createProduct (data : Json)
  | updateProduct (productId : String) (data : List (String × Json))
  | deleteProduct (productId : String)
  | createCategory (data : Json)
  | updateCategory (categoryId : String) (data : List (String × Json))
  | deleteCategory (categoryId : String)

/-- How the server's `try` block ends: the mutation is applied, or an error with `error.message` is
caught. -/
inductive MutationOutcome
  | done (data : Json)
  | refused (message : Option String)

def MutationOutcome.applied : MutationOutcome → Bool
  | done _ => true
  | refused _ => false

namespace Mutation

def program : Mutation → GatewayM (Option Json)
  | createProduct data => CatalogClient.createProduct data
  | updateProduct productId data => CatalogClient.updateProduct productId data
  | deleteProduct productId => CatalogClient.deleteProduct productId
  | createCategory data => CatalogClient.createCategory data
  | updateCategory categoryId data => CatalogClient.updateCategory categoryId data
  | deleteCategory categoryId => CatalogClient.deleteCategory categoryId

/-- `{ success: true, data }`. -/
def dataReply (data : Json) : Json := .obj [("success", .bool true), ("data", data)]

/-- `{ success: true }`. -/
def successReply : Json := .obj [("success", .bool true)]

/-- `{ success: false, error }`; an error that is undefined is not written. -/
def failureReply (error : Option String) : Json :=
  .obj (("success", .bool false) :: (error.map fun message => ("error", .str message)).toList)

/-- `error.message || 'Unknown error'`. -/
def orUnknown (message : Option String) : Option String :=
  if message.getD "" = "" then some "Unknown error" else message

/-- What the handlers of the catalogue's `setupRPCServers` answer. -/
def reply : Mutation → MutationOutcome → Json
  | createProduct _, .done data => dataReply data
  | createProduct _, .refused message => failureReply (orUnknown message)
  | updateProduct _ _, .done data => dataReply data
  | updateProduct _ _, .refused message => failureReply message
  | deleteProduct _, .done _ => successReply
  | deleteProduct _, .refused message => failureReply message
  | createCategory _, .done data => dataReply data
  | createCategory _, .refused message => failureReply (orUnknown message)
  | updateCategory _ _, .done data => dataReply data
  | updateCategory _ _, .refused message => failureReply message
  | deleteCategory _, .done _ => successReply
  | deleteCategory _, .refused message => failureReply message

end Mutation

/-- The requests of one call are numbered from 0. -/
structure Exchange where
  program : GatewayM (Option Json)
  sent : Nat
  /-- The request that has neither timed out nor been answered. -/
  pending : Option Nat
  requests : List Nat
  replies : List (Nat × Json)
  /-- The requests that the server has handled, and how. -/
  handled : List (Nat × MutationOutcome)
  /-- The requests whose reply came in time. -/
  heard : List Nat

inductive ExchangeEvent
  | rpcCall
  | delay
  | handle (i : Nat) (outcome : MutationOutcome)
  | loseRequest (i : Nat)
  | reply (i : Nat)
  | loseReply (i : Nat)
  | timer

namespace Exchange

def start (mutation : Mutation) : Exchange := ⟨mutation.program, 0, none, [], [], [], []⟩

/-- The call that the gateway awaits is sent. -/
def rpcCall (w : Exchange) : Exchange :=
  match w.pending, w.program with
  | none, .await (.rpcCall _ _ _) _ =>
    { w with sent := w.sent + 1, pending := some w.sent, requests := w.requests ++ [w.sent] }
  | _, _ => w

def delay (w : Exchange) : Exchange :=
  match w.program with
  | .await (.delay _) k => { w with program := k (.ok ()) }
  | _ => w

def resume (r : Except Error Json) : GatewayM (Option Json) → GatewayM (Option Json)
  | .await (.rpcCall _ _ _) k => k r
  | p => p

def settle (r : Except Error Json) (w : Exchange) : Exchange :=
  { w with pending := none, program := resume r w.program }

def timer (w : Exchange) : Exchange :=
  match w.pending with
  | none => w
  | some _ => w.settle (.error (.plain "RPC timeout"))

def handle (mutation : Mutation) (i : Nat) (outcome : MutationOutcome) (w : Exchange) : Exchange :=
  match w.requests[i]? with
  | none => w
  | some k =>
    { w with
      requests := w.requests.eraseIdx i
      replies := w.replies ++ [(k, mutation.reply outcome)]
      handled := w.handled ++ [(k, outcome)] }

/-- What a reply settles the call with. -/
def answer (response : Json) : Except Error Json :=
  RabbitMQClient.answer (fun _ => .ok response) ""

def handleRPCResponse (i : Nat) (w : Exchange) : Exchange :=
  match w.replies[i]? with
  | none => w
  | some (k, response) =>
    if w.pending = some k then
      { w with replies := w.replies.eraseIdx i, heard := k :: w.heard }.settle (answer response)
    else { w with replies := w.replies.eraseIdx i }

def step (mutation : Mutation) (w : Exchange) : ExchangeEvent → Exchange
  | .rpcCall => w.rpcCall
  | .delay => w.delay
  | .handle i outcome => w.handle mutation i outcome
  | .loseRequest i => { w with requests := w.requests.eraseIdx i }
  | .reply i => w.handleRPCResponse i
  | .loseReply i => { w with replies := w.replies.eraseIdx i }
  | .timer => w.timer

def run (mutation : Mutation) (events : List ExchangeEvent) : Exchange :=
  events.foldl (step mutation) (start mutation)

/-- The call has settled, and no message is in flight any more. -/
structure AtRest (w : Exchange) : Prop where
  settled : w.program.settlement.isSome
  requests : w.requests = []
  replies : w.replies = []

/-- How often the mutation has been applied. -/
def applied (w : Exchange) : Nat := w.handled.countP fun request => request.2.applied

/-- A second request only if the first one's handler gave no reply; one application at most; and the
call resolves if and only if there was one. -/
structure Truthful (w : Exchange) : Prop where
  resent : 1 < w.sent → ∀ outcome, (0, outcome) ∉ w.handled
  once : w.applied ≤ 1
  reported : w.program.resolved ↔ 0 < w.applied

end Exchange

end Ecommerce
