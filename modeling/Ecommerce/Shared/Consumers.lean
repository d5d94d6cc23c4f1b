import Ecommerce.Lib.EventLoop
import Ecommerce.Lib.Json
import Ecommerce.Shared.Errors

namespace Ecommerce

/-- A message as the channel delivers it; `B` is what its bytes are taken to be. -/
structure ConsumeMessage (B : Type) where
  deliveryTag : Nat
  content : B
  replyTo : Option String
  correlationId : Option String

/-- A truthy `replyTo`. -/
def ConsumeMessage.repliesTo {B : Type} (msg : ConsumeMessage B) : Option String :=
  msg.replyTo.filter (· ≠ "")

/-- What a callback does: an operation of its handler, or one on the channel.  `nack` is without
requeue. -/
inductive ConsumerOp (H : Type)
  | own (op : H)
  | ack (deliveryTag : Nat)
  | nack (deliveryTag : Nat)
  | sendToQueue (queue : String) (content : List Char) (correlationId : Option String)

abbrev ConsumerOp.Res {H : Type} (Res : H → Type) : ConsumerOp H → Type
  | .own op => Res op
  | .ack _ => Unit
  | .nack _ => Unit
  | .sendToQueue _ _ _ => Unit

abbrev ConsumerM {H : Type} (Res : H → Type) := Prog (ConsumerOp H) (ConsumerOp.Res Res) Error

namespace ConsumerOp

/-- The channel's own operations return at once. -/
def sync {H : Type} (own : H → Bool) : ConsumerOp H → Bool
  | .own op => own op
  | _ => true

def settles {H : Type} : ConsumerOp H → Bool
  | .ack _ => true
  | .nack _ => true
  | _ => false

def sends {H : Type} : ConsumerOp H → Bool
  | .sendToQueue _ _ _ => true
  | _ => false

end ConsumerOp

namespace RabbitMQClient

variable {B V H : Type} {Res : H → Type} {R : Type}

/-- The callback of `consume`. -/
def consume (parse : B → Except Error V) (handler : V → ConsumerM Res R) (msg : ConsumeMessage B) :
    ConsumerM Res Unit :=
  Prog.tryCatch
    (do
      let content ← Prog.settle (parse msg.content)
      let _ ← handler content
      .perform (ConsumerOp.ack (H := H) msg.deliveryTag))
    fun _ => .perform (ConsumerOp.nack (H := H) msg.deliveryTag)

/-- `Buffer.from`, of what `JSON.stringify` returns. -/
def bufferFrom : Option (List Char) → Except Error (List Char)
  | some text => .ok text
  | none => .error (.plain ("The first argument must be of type string or an instance of Buffer, " ++
    "ArrayBuffer, or Array or an Array-like Object. Received undefined"))

/-- A reply, where the message asks for one. -/
def reply (msg : ConsumeMessage B) (content : Except Error (List Char)) : ConsumerM Res Unit :=
  match msg.repliesTo with
  | none => pure ()
  | some replyTo => do
    let content ← Prog.settle content
    .perform (ConsumerOp.sendToQueue (H := H) replyTo content msg.correlationId)

def errorReply (error : Error) : List Char := (Json.obj [("error", .str error.message)]).stringify

/-- The callback of `setupRPCServer`. -/
def setupRPCServer (parse : B → Except Error V)
    (stringify : R → Except Error (Option (List Char))) (handler : V → ConsumerM Res R)
    (msg : ConsumeMessage B) : ConsumerM Res Unit :=
  Prog.tryCatch
    (do
      let content ← Prog.settle (parse msg.content)
      let response ← handler content
      reply msg (stringify response >>= bufferFrom)
      .perform (ConsumerOp.ack (H := H) msg.deliveryTag))
    fun error => do
      reply msg (.ok (errorReply error))
      .perform (ConsumerOp.nack (H := H) msg.deliveryTag)

end RabbitMQClient

/-- A message for a consumer, or for an RPC server. -/
structure Delivery (B : Type) where
  rpc : Bool
  msg : ConsumeMessage B

def Delivery.replyTo {B : Type} (d : Delivery B) : Option String :=
  if d.rpc then d.msg.repliesTo else none

section Answered

variable {B V R : Type} (parse : B → Except Error V)
  (stringify : R → Except Error (Option (List Char)))

/-- The callback for a message, whose handler is called once and settles as it likes. -/
def Delivery.callback (d : Delivery B) : ConsumerM (fun _ : V => R) Unit :=
  if d.rpc then
    RabbitMQClient.setupRPCServer parse stringify
      (fun content => .await (.own content) .settle) d.msg
  else RabbitMQClient.consume parse (fun content => .await (.own content) .settle) d.msg

/-- An open channel accepts every operation; `c` is what the handler settles with. -/
def openChannel (c : Except Error R) :
    Handler (ConsumerOp V) (ConsumerOp.Res fun _ => R) Error Unit
  | .own _, s => (c, s)
  | .ack _, s => (.ok (), s)
  | .nack _, s => (.ok (), s)
  | .sendToQueue _ _ _, s => (.ok (), s)

abbrev Doings (V R : Type) := List (Performed (ConsumerOp V) (ConsumerOp.Res fun _ => R) Error)

/-- What the handler has settled with, if it has. -/
def outcome : Doings V R → Option (Except Error R)
  | ⟨.own _, r⟩ :: _ => some r
  | _ => none

def Delivery.Served (d : Delivery B) (outcome : Option (Except Error R)) : Prop :=
  (∃ content, parse d.msg.content = .ok content) ∧ ∃ response, outcome = some (.ok response) ∧
    (d.replyTo.isSome → ∃ text, stringify response = .ok (some text))

/-- A message that is not yet settled waits for its handler; one that is has been acked or nacked
once, and answered once if it asks for an answer. -/
structure AnsweredOnce (d : Delivery B) (done : Doings V R) (o : Option (Except Error Unit)) :
    Prop where
  waits : o = none → (∃ content, parse d.msg.content = .ok content) ∧ done = []
  settled : o ≠ none →
    (done.map Sigma.fst).filter ConsumerOp.settles = [.ack d.msg.deliveryTag] ∨
    (done.map Sigma.fst).filter ConsumerOp.settles = [.nack d.msg.deliveryTag]
  acked_iff : .ack d.msg.deliveryTag ∈ done.map Sigma.fst ↔ d.Served parse stringify (outcome done)
  silent : d.replyTo = none → (done.map Sigma.fst).filter ConsumerOp.sends = []
  replied : o ≠ none → ∀ queue, d.replyTo = some queue → ∃ content,
    (done.map Sigma.fst).filter ConsumerOp.sends =
      [.sendToQueue queue content d.msg.correlationId] ∧
    (.ack d.msg.deliveryTag ∈ done.map Sigma.fst →
      ∃ response, outcome done = some (.ok response) ∧ stringify response = .ok (some content)) ∧
    (.ack d.msg.deliveryTag ∉ done.map Sigma.fst → ∃ error : Error,
      content = RabbitMQClient.errorReply error)

def Goes : (op : ConsumerOp V) → Except Error (ConsumerOp.Res (fun _ => R) op) → Prop
  | .own _, _ => True
  | .ack _, r => r = .ok ()
  | .nack _, r => r = .ok ()
  | .sendToQueue _ _ _, r => r = .ok ()

theorem goes_openChannel (c : Except Error R) (op : ConsumerOp V) (s : Unit) :
    Goes op (openChannel c op s).1 := by
  cases op with
  | own content => trivial
  | ack tag => rfl
  | nack tag => rfl
  | sendToQueue queue content correlationId => rfl

variable {parse stringify}

section Ends

variable {d : Delivery B} {content : V}

theorem AnsweredOnce.waiting (hparse : parse d.msg.content = .ok content) :
    AnsweredOnce parse stringify d ([] : Doings V R) none where
  waits _ := ⟨⟨content, hparse⟩, rfl⟩
  settled h := absurd rfl h
  acked_iff := by simp [Delivery.Served, outcome]
  silent _ := rfl
  replied h := absurd rfl h

/-- What a reply with `text` does. -/
def Delivery.replied (d : Delivery B) (text : List Char) : Doings V R :=
  match d.replyTo with
  | none => []
  | some queue => [⟨.sendToQueue queue text d.msg.correlationId, .ok ()⟩]

end Ends

theorem reports_reply (msg : ConsumeMessage B) (text : List Char)
    {Φ : Doings V R → Option (Except Error Unit) → Prop} :
    (RabbitMQClient.reply msg (.ok text) : ConsumerM (fun _ : V => R) Unit).Reports
        (ConsumerOp.sync fun _ => false) Goes Φ ↔
      Φ (Delivery.replied ⟨true, msg⟩ text) (some (.ok ())) := by
  rw [RabbitMQClient.reply, Delivery.replied, Delivery.replyTo, if_pos rfl]
  cases msg.repliesTo with
  | none => simp
  | some queue => simp [Goes, ConsumerOp.sync]

end Answered

section Example

private def request : Delivery String := ⟨true, ⟨1, "null", some "replies", some "c"⟩⟩

end Example

end Ecommerce
