import Ecommerce.Gateway.Bodies
import Ecommerce.Gateway.Roles
import Ecommerce.Lib.Monitor

namespace Ecommerce

open Prog

/-- A request for the product or the category routes. -/
inductive CatalogVisit
  | products (authorization : Option Authorization) (input : CatalogInput)
  | categories (authorization : Option Authorization) (input : CatalogInput)

namespace CatalogVisit

def authorization : CatalogVisit → Option Authorization
  | products authorization _ => authorization
  | categories authorization _ => authorization

def input : CatalogVisit → CatalogInput
  | products _ input => input
  | categories _ input => input

def kind (isUrl : String → Bool) : CatalogVisit → CatalogKind
  | products _ _ => .product isUrl
  | categories _ _ => .category

def routes (isUrl : String → Bool) (config : Config) :
    CatalogVisit → GatewayM (ApiResponse (Option Json))
  | products authorization input =>
    productsRoutes config authorization (input.parse (.product isUrl))
  | categories authorization input => categoriesRoutes config authorization (input.parse .category)

end CatalogVisit

structure CatalogValidation where
  products : Validation (Except String Json)
  categories : Validation (Except String Json)

namespace CatalogVisit

def vetted (validation : CatalogValidation) : CatalogVisit → Except String CatalogVisit
  | products authorization input =>
    (input.validated validation.products).map (products authorization)
  | categories authorization input =>
    (input.validated validation.categories).map (categories authorization)

def handler (validation : CatalogValidation) (isUrl : String → Bool) (config : Config)
    (visit : CatalogVisit) : GatewayM (ApiResponse (Option Json)) :=
  Validation.answer (routes isUrl config) (visit.vetted validation)

theorem authorization_vetted {validation : CatalogValidation} {visit checked : CatalogVisit}
    (h : visit.vetted validation = .ok checked) :
    checked.authorization = visit.authorization := by
  cases visit with
  | products authorization input =>
    rw [vetted] at h
    cases hinput : input.validated validation.products with
    | error text => simp [hinput, Except.map] at h
    | ok input' =>
      rw [hinput] at h
      exact Except.ok.inj h ▸ rfl
  | categories authorization input =>
    rw [vetted] at h
    cases hinput : input.validated validation.categories with
    | error text => simp [hinput, Except.map] at h
    | ok input' =>
      rw [hinput] at h
      exact Except.ok.inj h ▸ rfl

end CatalogVisit

abbrev GatewayDoing := Performed GatewayOp GatewayOp.Res Error

namespace CatalogVisit

def Answered (queue : CatalogQueue) (payload reply : Json) (done : List GatewayDoing) : Prop :=
  ⟨.rpcCall queue payload 10000, .ok reply⟩ ∈ done

structure Succeeded (reply : Json) (data : Option Json) : Prop where
  success : ∃ success, reply.get "success" = .ok (some success) ∧ success.truthy
  data : reply.get "data" = .ok data

/-- The data of a response comes from the answer to a message of the request's; to a `delete` of a
product, it is the answer. -/
def Sourced (kind : CatalogKind) (input : CatalogInput) (done : List GatewayDoing)
    (data : Option Json) : Prop :=
  ∃ queue payload reply, input.Message kind queue payload ∧ Answered queue payload reply done ∧
    if queue = .productDelete then data = some reply else Succeeded reply data

def Admitted (config : Config) (authorization : Option Authorization) (done : List GatewayDoing) :
    Prop :=
  ∃ token now payload, authorization = some (.bearer token) ∧ ⟨.dateNow, .ok now⟩ ∈ done ∧
    Jwt.verify config.jwtAccessSecret now token = .ok payload ∧ payload.role = .admin

/-- The messages that a request may send: its own, and on a mutating queue only with a valid token
of an admin. -/
def May (isUrl : String → Bool) (config : Config) (visit : CatalogVisit)
    (done : List GatewayDoing) : GatewayOp → Prop
  | .rpcCall queue payload _ => visit.input.Message (visit.kind isUrl) queue payload ∧
    (queue.mutates → Admitted config visit.authorization done)
  | .forward _ _ _ => False
  | _ => True

/-- A response that is no failure has data, as `F` says. -/
def Reports (F : List GatewayDoing → Option Json → Prop) (done : List GatewayDoing)
    (r : Except Error (ApiResponse (Option Json))) : Prop :=
  ∀ response, r = .ok response → response.status < 300 →
    ∃ data, response.data = some data ∧ F done data

section Client

open CatalogClient

variable {A : List GatewayDoing → GatewayOp → Prop} {done : List GatewayDoing}
  {queue : CatalogQueue} {payload : Json}

theorem Answered.later {reply : Json} (h : Answered queue payload reply done)
    (d : GatewayDoing) : Answered queue payload reply (done ++ [d]) :=
  List.mem_append_left _ h

theorem monitored_call_rpc (hcall : ∀ done', done <+: done' → A done' (.rpcCall queue payload 10000))
    (hdelay : ∀ done', A done' (.delay 1000)) :
    Monitored (fun _ _ => True) A (rpc queue payload)
      (fun done r => ∀ reply, r = .ok reply → Answered queue payload reply done) done := by
  simp only [rpc, rpcWithRetry, monitored_tryCatch, monitored_perform]
  refine ⟨hcall _ List.prefix_rfl, fun r _ => ?_⟩
  cases r with
  | ok reply =>
    intro reply' hreply
    obtain rfl := Except.ok.inj hreply
    exact List.mem_append_right _ (List.mem_singleton_self _)
  | error e =>
    simp only [monitored_bind, monitored_perform]
    refine ⟨hdelay _, fun r _ => ?_⟩
    cases r with
    | error e => exact fun reply hreply => by cases hreply
    | ok u =>
      refine ⟨hcall _ ((List.prefix_append _ _).trans (List.prefix_append _ _)),
        fun r _ reply hreply => ?_⟩
      rw [hreply]
      exact List.mem_append_right _ (List.mem_singleton_self _)

theorem monitored_readField (key : String) (reply : Json) :
    Monitored (fun _ _ => True) A (readField key reply)
      (fun done' r => done' = done ∧ ∀ field, r = .ok field → reply.get key = .ok field) done := by
  rw [readField, monitored_settle]
  refine ⟨rfl, fun field hfield => ?_⟩
  cases hget : reply.get key with
  | error e =>
    rw [hget] at hfield
    cases hfield
  | ok field' =>
    rw [hget] at hfield
    exact congrArg Except.ok (Except.ok.inj hfield)

theorem monitored_dataOf (fallback : String) (reply : Json) :
    Monitored (fun _ _ => True) A (dataOf fallback reply)
      (fun done' r => done' = done ∧ ∀ data, r = .ok data → Succeeded reply data) done := by
  rw [dataOf, monitored_bind]
  refine (monitored_readField "success" reply).mono fun done' r h => ?_
  obtain ⟨rfl, hsuccess⟩ := h
  cases r with
  | error e => exact ⟨rfl, fun data h => by cases h⟩
  | ok success =>
    change Monitored _ _ (if (success.getD .null).truthy = true then _ else _) _ _
    split
    · next htruthy =>
      refine (monitored_readField "data" reply).mono fun done r h => ⟨h.1, fun data hdata => ?_⟩
      cases success with
      | none => cases htruthy
      | some success => exact ⟨⟨success, hsuccess _ rfl, htruthy⟩, h.2 data hdata⟩
    · rw [monitored_bind]
      refine (monitored_readField "error" reply).mono fun done r h => ?_
      obtain ⟨rfl, -⟩ := h
      cases r with
      | error e => exact ⟨rfl, fun data h => by cases h⟩
      | ok error =>
        simp only [newError, monitored_bind, monitored_settle]
        split
        · exact ⟨rfl, fun data h => by cases h⟩
        · exact ⟨trivial, fun data h => by cases h⟩

theorem monitored_call
    (hcall : ∀ done', done <+: done' → A done' (.rpcCall queue payload 10000))
    (hdelay : ∀ done', A done' (.delay 1000)) (fallback : String) :
    Monitored (fun _ _ => True) A (call queue payload fallback)
      (fun done r => ∀ data, r = .ok data →
        ∃ reply, Answered queue payload reply done ∧ Succeeded reply data) done := by
  rw [call, monitored_bind]
  refine (monitored_call_rpc hcall hdelay).mono fun done r h => ?_
  cases r with
  | error e => exact fun data hdata => by cases hdata
  | ok reply =>
    refine (monitored_dataOf fallback reply).mono fun done' r' h' data hdata => ?_
    obtain ⟨rfl, hsucceeded⟩ := h'
    exact ⟨reply, h reply rfl, hsucceeded data hdata⟩

theorem monitored_rethrown {p : GatewayM (Option Json)} {f : Error → Error}
    {F : List GatewayDoing → Option Json → Prop}
    (hp : Monitored (fun _ _ => True) A p (fun done r => ∀ data, r = .ok data → F done data) done) :
    Monitored (fun _ _ => True) A (p.tryCatch fun e => MonadExcept.throw (f e))
      (fun done r => ∀ data, r = .ok data → F done data) done := by
  rw [monitored_tryCatch]
  refine hp.mono fun done r h => ?_
  cases r with
  | ok data => exact h
  | error e => exact fun data hdata => by cases hdata

end Client

section Texts

variable {A : List GatewayDoing → GatewayOp → Prop} {done : List GatewayDoing}
  {F : List GatewayDoing → Option Json → Prop}

theorem reports_failure {response : ApiResponse (Option Json)} (h : 300 ≤ response.status) :
    Reports F done (.ok response) := by
  intro response' hresponse hstatus
  obtain rfl := Except.ok.inj hresponse
  exact absurd hstatus (Nat.not_lt.mpr h)

theorem monitored_orServerError (fallback : String) {body : GatewayM (ApiResponse (Option Json))}
    (hbody : Monitored (fun _ _ => True) A body (Reports F) done) :
    Monitored (fun _ _ => True) A (orServerError fallback body) (Reports F) done := by
  rw [orServerError, monitored_tryCatch]
  refine hbody.mono fun done r h => ?_
  cases r with
  | ok response => exact h
  | error e => exact reports_failure (by decide : 300 ≤ 500)

theorem monitored_success {p : GatewayM (Option Json)} (status : Nat) (message : String)
    (hp : Monitored (fun _ _ => True) A p (fun done r => ∀ data, r = .ok data → F done data) done) :
    Monitored (fun _ _ => True) A
      (p >>= fun result => Pure.pure (ApiResponse.success status message result)) (Reports F)
      done := by
  rw [monitored_bind]
  refine hp.mono fun done r h => ?_
  cases r with
  | error e => exact fun response hresponse => by cases hresponse
  | ok data =>
    intro response hresponse _
    obtain rfl := Except.ok.inj hresponse
    exact ⟨data, rfl, h data rfl⟩

theorem monitored_validated {α : Type} (body : Except String α)
    {handler : α → GatewayM (ApiResponse (Option Json))}
    (h : ∀ data, body = .ok data →
      Monitored (fun _ _ => True) A (handler data) (Reports F) done) :
    Monitored (fun _ _ => True) A (validated body handler) (Reports F) done := by
  cases body with
  | error text => exact reports_failure (by decide : 300 ≤ 400)
  | ok data => exact h data rfl

theorem monitored_validId (t : CatalogTexts) (id : String)
    {handler : GatewayM (ApiResponse (Option Json))}
    (h : isUuid id → Monitored (fun _ _ => True) A handler (Reports F) done) :
    Monitored (fun _ _ => True) A (if isUuid id = false then Pure.pure t.invalidId else handler)
      (Reports F) done := by
  split
  · exact reports_failure (by decide : 300 ≤ 400)
  · next hid => exact h (by simpa using hid)

theorem Admitted.later {config : Config} {authorization : Option Authorization}
    {done' : List GatewayDoing} (h : Admitted config authorization done) (hdone : done <+: done') :
    Admitted config authorization done' := by
  obtain ⟨token, now, payload, hheader, hnow, hverify⟩ := h
  exact ⟨token, now, payload, hheader, hdone.subset hnow, hverify⟩

theorem monitored_adminOnly {config : Config} {authorization : Option Authorization}
    {handler : GatewayM (ApiResponse (Option Json))} (hnow : ∀ done, A done .dateNow)
    (h : ∀ done, Admitted config authorization done →
      Monitored (fun _ _ => True) A handler (Reports F) done) :
    Monitored (fun _ _ => True) A (adminOnly config authorization handler) (Reports F) done := by
  have hdenied : ∀ {done} message, Reports F done (.ok (unauthorized message)) :=
    fun _ => reports_failure (by decide : 300 ≤ 401)
  rw [adminOnly, hooked, monitored_bind]
  cases authorization with
  | none => exact hdenied _
  | some header =>
    cases header with
    | other text => exact hdenied _
    | bearer token =>
      simp only [authMiddleware, monitored_bind, monitored_perform]
      refine ⟨hnow _, fun r _ => ?_⟩
      cases r with
      | error e => exact fun response hresponse => by cases hresponse
      | ok now =>
        cases hverify : Jwt.verify config.jwtAccessSecret now token with
        | error e =>
          simp only [hverify, monitored_pure]
          exact hdenied _
        | ok payload =>
          simp only [hverify, monitored_pure, hooked, monitored_bind, requireAdmin, requireRole]
          split
          · exact fun response hresponse => by cases hresponse
          · next hrole =>
            exact h _ ⟨token, now, payload, rfl,
              List.mem_append_right done (List.mem_singleton_self _), hverify, by simpa using hrole⟩

end Texts

section Sourced

open CatalogClient

variable {A : List GatewayDoing → GatewayOp → Prop} {done : List GatewayDoing} {kind : CatalogKind}
  {input : CatalogInput} {queue : CatalogQueue} {payload : Json}

theorem monitored_sourced (hmessage : input.Message kind queue payload)
    (hcall : ∀ done', done <+: done' → A done' (.rpcCall queue payload 10000))
    (hdelay : ∀ done', A done' (.delay 1000)) (hqueue : queue ≠ .productDelete) (fallback : String) :
    Monitored (fun _ _ => True) A (call queue payload fallback)
      (fun done r => ∀ data, r = .ok data → Sourced kind input done data) done := by
  refine (monitored_call hcall hdelay fallback).mono fun done r h data hdata => ?_
  obtain ⟨reply, hanswered, hsucceeded⟩ := h data hdata
  exact ⟨queue, payload, reply, hmessage, hanswered, by rwa [if_neg hqueue]⟩

theorem monitored_deleteProduct (hmessage : input.Message kind .productDelete payload)
    (hcall : ∀ done', done <+: done' → A done' (.rpcCall .productDelete payload 10000))
    (hdelay : ∀ done', A done' (.delay 1000)) :
    Monitored (fun _ _ => True) A
      (rpc .productDelete payload >>= fun response => Pure.pure (some response))
      (fun done r => ∀ data, r = .ok data → Sourced kind input done data) done := by
  rw [monitored_bind]
  refine (monitored_call_rpc hcall hdelay).mono fun done r h => ?_
  cases r with
  | error e => exact fun data hdata => by cases hdata
  | ok reply =>
    intro data hdata
    obtain rfl := Except.ok.inj hdata
    exact ⟨.productDelete, payload, reply, hmessage, h reply rfl, by rw [if_pos rfl]⟩

open CatalogInput

theorem monitored_create (t : CatalogTexts) (hkind : kind.Proper) {body : Option Json}
    {create : Json → GatewayM (Option Json)}
    (h : ∀ payload, (CatalogInput.create body).Message kind kind.create payload →
      Monitored (fun _ _ => True) A (create payload)
        (fun done r => ∀ data, r = .ok data → Sourced kind (.create body) done data) done) :
    Monitored (fun _ _ => True) A (t.create create ((parseBody kind.fields body).map .obj))
      (Reports (Sourced kind (.create body))) done := by
  refine monitored_orServerError _ (monitored_validated _ fun payload hpayload => ?_)
  cases hbody : parseBody kind.fields body with
  | error text =>
    rw [hbody] at hpayload
    cases hpayload
  | ok data =>
    rw [hbody] at hpayload
    obtain rfl := Except.ok.inj hpayload
    exact monitored_success _ _ (h _ (message_create hkind hbody))

theorem monitored_update (t : CatalogTexts) (hkind : kind.Proper) {id : String} {body : Option Json}
    {update : String → List (String × Json) → GatewayM (Option Json)}
    (h : ∀ data, (CatalogInput.update id body).Message kind kind.update
        (.obj ((kind.idKey, .str id) :: data)) →
      Monitored (fun _ _ => True) A (update id data)
        (fun done r => ∀ data, r = .ok data → Sourced kind (.update id body) done data) done) :
    Monitored (fun _ _ => True) A (t.update update id (parseBody kind.updateFields body))
      (Reports (Sourced kind (.update id body))) done := by
  refine monitored_orServerError _ (monitored_validId _ id fun hid => ?_)
  refine monitored_validated _ fun data hdata => ?_
  split
  · exact reports_failure (by decide : 300 ≤ 400)
  next hlength =>
  have hdata' : data ≠ [] := fun hnil => hlength (by rw [hnil]; rfl)
  exact monitored_success _ _ (h data (message_update hkind hid hdata hdata'))

end Sourced

open CatalogInput

variable (isUrl : String → Bool) (config : Config) (authorization : Option Authorization)

theorem monitored_products (input : CatalogInput) :
    Monitored (fun _ _ => True) ((products authorization input).May isUrl config)
      ((products authorization input).routes isUrl config)
      (Reports (Sourced (.product isUrl) input)) [] := by
  cases input with
  | list query =>
    refine monitored_orServerError _ (monitored_validated query fun q hq => ?_)
    have hmessage : (list query).Message (.product isUrl) .productList q := ⟨rfl, hq⟩
    exact monitored_success _ _ (monitored_rethrown (monitored_sourced hmessage
      (fun _ _ => ⟨hmessage, nofun⟩) (fun _ => trivial) nofun _))
  | get id =>
    refine monitored_orServerError _ (monitored_validId _ id fun hid => ?_)
    have hmessage : (get id).Message (.product isUrl) .productGet _ := ⟨rfl, hid, destructure_id⟩
    exact monitored_success _ _ (monitored_rethrown (monitored_sourced hmessage
      (fun _ _ => ⟨hmessage, nofun⟩) (fun _ => trivial) nofun _))
  | create body =>
    refine monitored_adminOnly (fun _ => trivial) fun done hadmitted => ?_
    refine monitored_create _ (CatalogKind.proper_product isUrl) fun payload hmessage => ?_
    exact monitored_rethrown (monitored_sourced hmessage
      (fun _ hdone => ⟨hmessage, fun _ => hadmitted.later hdone⟩) (fun _ => trivial) nofun _)
  | update id body =>
    refine monitored_adminOnly (fun _ => trivial) fun done hadmitted => ?_
    refine monitored_update _ (CatalogKind.proper_product isUrl) fun data hmessage => ?_
    exact monitored_rethrown (monitored_sourced hmessage
      (fun _ hdone => ⟨hmessage, fun _ => hadmitted.later hdone⟩) (fun _ => trivial) nofun _)
  | delete id =>
    refine monitored_adminOnly (fun _ => trivial) fun done hadmitted => ?_
    refine monitored_orServerError _ (monitored_validId _ id fun hid => ?_)
    have hmessage : (delete id).Message (.product isUrl) .productDelete _ :=
      ⟨rfl, hid, destructure_id⟩
    exact monitored_success _ _ (monitored_rethrown (monitored_deleteProduct hmessage
      (fun _ hdone => ⟨hmessage, fun _ => hadmitted.later hdone⟩) fun _ => trivial))

theorem monitored_categories (input : CatalogInput) :
    Monitored (fun _ _ => True) ((categories authorization input).May isUrl config)
      ((categories authorization input).routes isUrl config)
      (Reports (Sourced .category input)) [] := by
  cases input with
  | list query =>
    refine monitored_orServerError _ (monitored_validated _ fun _ _ => ?_)
    have hmessage : (list query).Message .category .categoryList _ := ⟨rfl, rfl⟩
    exact monitored_success _ _ (monitored_rethrown (monitored_sourced hmessage
      (fun _ _ => ⟨hmessage, nofun⟩) (fun _ => trivial) nofun _))
  | get id =>
    refine monitored_orServerError _ (monitored_validId _ id fun hid => ?_)
    have hmessage : (get id).Message .category .categoryGet _ := ⟨rfl, hid, destructure_id⟩
    exact monitored_success _ _ (monitored_rethrown (monitored_sourced hmessage
      (fun _ _ => ⟨hmessage, nofun⟩) (fun _ => trivial) nofun _))
  | create body =>
    refine monitored_adminOnly (fun _ => trivial) fun done hadmitted => ?_
    refine monitored_create _ CatalogKind.proper_category fun payload hmessage => ?_
    exact monitored_rethrown (monitored_sourced hmessage
      (fun _ hdone => ⟨hmessage, fun _ => hadmitted.later hdone⟩) (fun _ => trivial) nofun _)
  | update id body =>
    refine monitored_adminOnly (fun _ => trivial) fun done hadmitted => ?_
    refine monitored_update _ CatalogKind.proper_category fun data hmessage => ?_
    exact monitored_rethrown (monitored_sourced hmessage
      (fun _ hdone => ⟨hmessage, fun _ => hadmitted.later hdone⟩) (fun _ => trivial) nofun _)
  | delete id =>
    refine monitored_adminOnly (fun _ => trivial) fun done hadmitted => ?_
    refine monitored_orServerError _ (monitored_validId _ id fun hid => ?_)
    have hmessage : (delete id).Message .category .categoryDelete _ := ⟨rfl, hid, destructure_id⟩
    exact monitored_success _ _ (monitored_rethrown (monitored_sourced hmessage
      (fun _ hdone => ⟨hmessage, fun _ => hadmitted.later hdone⟩) (fun _ => trivial) nofun _))

theorem monitored_routes (visit : CatalogVisit) :
    Monitored (fun _ _ => True) (visit.May isUrl config) (visit.routes isUrl config)
      (Reports (Sourced (visit.kind isUrl) visit.input)) [] := by
  cases visit with
  | products authorization input => exact monitored_products isUrl config authorization input
  | categories authorization input => exact monitored_categories isUrl config authorization input

/-- The routes of the catalogue send what is asked of them by a request that Fastify has handed on,
for those who may ask for it, and report nothing but what comes back. -/
theorem monitored_handler (validation : CatalogValidation) (visit : CatalogVisit) :
    Monitored (fun _ _ => True)
      (fun done op => ∃ checked, visit.vetted validation = .ok checked ∧
        checked.May isUrl config done op)
      (visit.handler validation isUrl config)
      (Reports fun done data => ∃ checked, visit.vetted validation = .ok checked ∧
        Sourced (checked.kind isUrl) checked.input done data) [] := by
  unfold handler
  cases hchecked : visit.vetted validation with
  | error text => exact reports_failure (by decide : 300 ≤ 400)
  | ok checked =>
    refine (monitored_routes isUrl config checked).weaken
      (fun done op hop => ⟨checked, rfl, hop⟩) fun done r h response hresponse hstatus => ?_
    obtain ⟨data, hdata, hsourced⟩ := h response hresponse hstatus
    exact ⟨data, hdata, checked, rfl, hsourced⟩

end CatalogVisit

end Ecommerce
