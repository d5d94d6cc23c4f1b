import Ecommerce.Order.Intake
import Ecommerce.Order.Snapshot
import Ecommerce.Lib.Triple

/-! The gateway's order routes in front of the order service: whose orders a request shows, and whose
it changes. -/

namespace Ecommerce

/-- A request for the order routes, its body not looked at yet.  `query` is what zod makes of the
query that it is handed. -/
inductive OrdersInput
  | list (query : Except String Unit)
  | get (id : String)
  | create (body : Option Json)
  | cancel (id : String)

/-- The request as Fastify hands it on. -/
def OrdersInput.validated (validation : Validation (Except String Unit)) :
    OrdersInput → Except String OrdersInput
  | list query => (validation.querystring query).map fun _ => list query
  | get id => (validation.params id).map fun _ => get id
  | create body => (validation.body body).map create
  | cancel id => (validation.params id).map fun _ => cancel id

def OrdersInput.parse : OrdersInput → OrdersRequest
  | list query => .list query
  | get id => .get id
  | create body =>
    .create ((parseBody OrdersRoutes.createOrderSchema body).map CreateOrderBody.ofFields)
  | cancel id => .cancel id

def ForwardData.userId : ForwardData → UserId
  | .user userId => userId
  | .order userId _ _ _ => userId

def HttpMethod.text : HttpMethod → String
  | .get => "GET"
  | .post => "POST"
  | .put => "PUT"

/-! The order service, as its routes make it. -/
namespace OrderApp

variable (zodMessage : List Issue → String)

def segments (path : String) : List String := (path.toList.splitOn '/').map String.ofList

/-- A `GET` has the data in its query, the others have it in their body. -/
def orderRoutes (method : HttpMethod) (path : String) (data : ForwardData) :
    Option (OrderM (ApiResponse OrderData)) :=
  match method, segments path with
  | .get, ["", "orders"] => some (OrderController.getUserOrders data.userId)
  | .get, ["", "orders", ""] => some (OrderController.getUserOrders data.userId)
  | .get, ["", "orders", id] => some (OrderController.getById id data.userId)
  | .post, ["", "orders"] => some (OrderController.create zodMessage (some data.json))
  | .post, ["", "orders", ""] => some (OrderController.create zodMessage (some data.json))
  | .put, ["", "orders", id, "cancel"] => some (OrderController.cancel id data.userId)
  | _, _ => none

def serve (env : Script Turn) (method : HttpMethod) (path : String) (data : ForwardData)
    (w : World) : ApiResponse OrderData × World :=
  match orderRoutes zodMessage method path data with
  | some handler => respond env handler w
  | none => (.failure 404 ("Route " ++ method.text ++ ":" ++ path ++ " not found"), w)

end OrderApp

section Reply

variable (render : Order → List (String × Json))

def OrderData.key : OrderData → String
  | .orders _ => "orders"
  | .order _ => "order"

def OrderData.payload : OrderData → Json
  | .orders rows => .arr (rows.map fun row => .obj (render row))
  | .order row => .obj (render row)

def OrderData.json (found : OrderData) : Json := .obj [(found.key, found.payload render)]

/-- A response body as it arrives; `render` is what is left of a row, with the rows it includes. -/
def ApiResponse.json (response : ApiResponse OrderData) : Json :=
  .obj [("status", .num (.ofNat response.status)), ("message", .str response.message),
    ("data", (response.data.map (OrderData.json render)).getD (.obj [])),
    ("error", .str response.error)]

end Reply

/-- The environment's move at an operation of the gateway: the clock, what happens to the order
service while it handles a forwarded request, and whether request and response arrive. -/
structure StorefrontMove where
  now : Int
  order : Script Turn
  arrives : Bool
  returns : Bool

namespace Storefront

variable (zodMessage : List Issue → String) (render : Order → List (String × Json))

/-- What `ProxyService.forward` makes of a response, and of none. -/
def proxied (returns : Bool) (response : ApiResponse OrderData) : Except Error Json :=
  if returns = false then .error (.app .internalServer "Service unavailable")
  else if response.status < 300 then .ok (response.json render)
  else .error (.app .internalServer (orFallback response.message "Service request failed"))

/-- The order routes send no RPC. -/
def handle (c : StorefrontMove) : Handler GatewayOp GatewayOp.Res Error World
  | .rpcCall _ _ _, w => (.error (.plain "RPC timeout"), w)
  | .delay _, w => (.ok (), w)
  | .dateNow, w => (.ok c.now, w)
  | .forward path method data, w =>
    if c.arrives = false then (.error (.app .internalServer "Service unavailable"), w)
    else
      (proxied render c.returns (OrderApp.serve zodMessage c.order method path data w).1,
        (OrderApp.serve zodMessage c.order method path data w).2)

end Storefront

/-- A request at the gateway, what the environment does to it, and how the rows are written that the
order service reads for it: each of its statements includes others. -/
structure Visit where
  authorization : Option Authorization
  input : OrdersInput
  env : Script StorefrontMove
  render : Order → List (String × Json)

namespace Visit

/-- Whose token the request has. -/
def caller (config : Config) (visit : Visit) : Option JWTPayload :=
  match visit.authorization with
  | some (.bearer token) =>
    (Jwt.verify config.jwtAccessSecret (visit.env 0).now token).toOption
  | _ => none

variable (config : Config) (zodMessage : List Issue → String)
  (validation : Validation (Except String Unit))

/-- Behind Fastify's validation: the route's hook, and its handler. -/
def route (visit : Visit) (input : OrdersInput) (w : World) : ApiResponse (Option Json) × World :=
  let played := (ordersRoutes config visit.authorization input.parse).play
    (Storefront.handle zodMessage visit.render) visit.env w
  ((match played.1 with | .ok response => response | .error e => errorHandler e), played.2)

def serve (visit : Visit) (w : World) : ApiResponse (Option Json) × World :=
  match visit.input.validated validation with
  | .error text => (errorHandler (.badRequest text), w)
  | .ok input => visit.route config zodMessage input w

end Visit

structure Lasting (order stored : Order) : Prop where
  id : stored.id = order.id
  userId : stored.userId = order.userId
  items : stored.items = order.items
  shippingAddress : stored.shippingAddress = order.shippingAddress

structure PlacedWith (userId : UserId) (body : CreateOrderBody) (order : Order) : Prop where
  userId : order.userId = userId
  items : order.items = body.items.map Item.row
  shippingAddress : order.shippingAddress = body.shippingAddress
  valid : ∀ item ∈ body.items, item.Valid
  nonempty : body.items ≠ []

namespace OrdersInput

/-- The body that the gateway has accepted. -/
def Accepts (body : Option Json) (accepted : CreateOrderBody) : Prop :=
  ∃ data, Schema.parse OrdersRoutes.createOrderSchema body = .ok data ∧
    accepted = .ofFields data

def Effect (userId : UserId) (w w' : World) : OrdersInput → Prop
  | list _ => w' = w
  | get _ => w' = w
  | create body => w'.orders.rows = w.orders.rows ∨
    ∃ accepted order stored, Accepts body accepted ∧ PlacedWith userId accepted order ∧
      Lasting order stored ∧ w'.orders.rows = w.orders.rows ++ [stored]
  | cancel id => w'.orders.rows = w.orders.rows ∨
    ∃ order ∈ w.owned userId, order.id = id ∧ order.status ∈ [.pending, .confirmed] ∧
      w'.orders.rows =
        w.orders.rows.map fun row => if row.id = id then { row with status := .cancelled } else row

def Shown (userId : UserId) (w w' : World) : OrdersInput → OrderData → Prop
  | list _, found => ∃ newestFirst, found = .orders (w.ordersOf newestFirst userId)
  | get id, found => ∃ order ∈ w.owned userId, order.id = id ∧ found = .order order
  | create body, found => ∃ accepted order stored, Accepts body accepted ∧
    PlacedWith userId accepted order ∧ Lasting order stored ∧
    w'.orders.rows = w.orders.rows ++ [stored] ∧ found = .order order
  | cancel id, found => ∃ order ∈ w.owned userId, order.id = id ∧
    { order with status := .cancelled } ∈ w'.owned userId ∧
    found = .order { order with status := .cancelled }

structure Serves (userId : UserId) (input : OrdersInput) (w : World)
    (out : ApiResponse OrderData × World) : Prop where
  effect : input.Effect userId w out.2
  shown : out.1.status < 300 → ∃ found, out.1.data = some found ∧ input.Shown userId w out.2 found

def Malformed : OrdersInput → Prop
  | list query => ∃ text, query = .error text
  | get id => isUuid id = false
  | create body => ∀ accepted, ¬ Accepts body accepted
  | cancel id => isUuid id = false

/-- What the gateway does for a user. -/
structure Answers (render : Order → List (String × Json)) (userId : UserId) (input : OrdersInput)
    (w : World) (out : ApiResponse (Option Json) × World) : Prop where
  malformed : input.Malformed → out.1.status = 400 ∧ out.2 = w
  effect : input.Effect userId w out.2
  shown : ∀ j, out.1.data = some j →
    ∃ found, input.Shown userId w out.2 found ∧ j = some (found.payload render)

theorem Effect.refl (userId : UserId) (w : World) (input : OrdersInput) :
    input.Effect userId w w := by
  cases input with
  | list query => rfl
  | get id => rfl
  | create body => exact .inl rfl
  | cancel id => exact .inl rfl

end OrdersInput

section Rows

variable {env env' : Script Turn} {w w' : World} {data : CreateOrderData}

theorem Lasting.refl (order : Order) : Lasting order order := ⟨rfl, rfl, rfl, rfl⟩

theorem Lasting.apply {order stored : Order} (h : Lasting order stored) (update : OrderUpdate) :
    Lasting order (update.apply stored) := by
  cases update with
  | status s => exact ⟨h.id, h.userId, h.items, h.shippingAddress⟩
  | paymentStatus s => exact ⟨h.id, h.userId, h.items, h.shippingAddress⟩

theorem rows_modify_last {rows : List Order} {row : Order} (hw : w.orders.rows = rows ++ [row])
    (hfresh : ∀ r ∈ rows, r.id ≠ row.id) (update : OrderUpdate) :
    (w.modify row.id update).orders.rows = rows ++ [update.apply row] := by
  have hrows : rows.map (fun r => if r.id = row.id then update.apply r else r) = rows :=
    (List.map_congr_left fun r hr => if_neg (hfresh r hr)).trans (List.map_id rows)
  change w.orders.rows.map (fun r => if r.id = row.id then update.apply r else r) = _
  rw [hw, List.map_append, hrows, List.map_singleton, if_pos rfl]

theorem Settles.rows (row : Order) {total : Int} {r : Except Error Unit} {rows : List Order}
    (h : Settles env data row.id total w r env' w') (hw : w.orders.rows = rows ++ [row])
    (hfresh : ∀ r ∈ rows, r.id ≠ row.id) :
    ∃ stored, w'.orders.rows = rows ++ [stored] ∧ Lasting row stored := by
  have hpaid : ∀ reply, ((w.capture reply).modify row.id (.paymentStatus .completed)).orders.rows =
      rows ++ [OrderUpdate.apply (.paymentStatus .completed) row] := fun reply =>
    rows_modify_last (by rw [World.capture_orders, hw]) hfresh _
  cases h with
  | unpaid => exact ⟨row, hw, .refl row⟩
  | declined => exact ⟨row, by rw [World.request_orders, hw], .refl row⟩
  | unrecorded => exact ⟨row, by rw [World.capture_orders, hw], .refl row⟩
  | unconfirmed => exact ⟨_, hpaid _, (Lasting.refl row).apply _⟩
  | confirmed =>
    refine ⟨_, ?_, ((Lasting.refl row).apply (.paymentStatus .completed)).apply
      (.status .confirmed)⟩
    rw [World.request_orders]
    exact rows_modify_last (hpaid _) hfresh _

theorem Creates.rows {out : Except Error Order × World} (h : Creates env data w out) :
    (out.2.orders.rows = w.orders.rows ∧ ∃ e, out.1 = .error e) ∨
      ∃ order stored, out.2.orders.rows = w.orders.rows ++ [stored] ∧ Lasting order stored ∧
        order.userId = data.userId ∧ order.items = data.items.map Item.row ∧
        order.shippingAddress = data.shippingAddress ∧ ∀ shown, out.1 = .ok shown → shown = order := by
  have hinserted : ∀ {orders : OrderTable} {row : Order}, w.orders.insert row = some orders →
      orders.rows = w.orders.rows ++ [row] ∧ ∀ r ∈ w.orders.rows, r.id ≠ row.id := by
    intro orders row hinsert
    refine ⟨Table.rows_insert hinsert, fun r hr hid => ?_⟩
    exact Table.find?_eq_none.mp (Table.find?_of_insert hinsert) (hid ▸ List.mem_map_of_mem hr)
  cases h with
  | refused hreply => exact .inl ⟨by rw [World.request_orders], _, rfl⟩
  | notInserted hreply hinsert =>
    exact .inl ⟨by rw [World.request_orders, World.request_orders], _, rfl⟩
  | failed hreply hdb hinsert hsettle =>
    obtain ⟨hrows, hfresh⟩ := hinserted hinsert
    obtain ⟨stored, hstored, hlasting⟩ :=
      Settles.rows (data.newOrder.row (env 1).newId (env 1).now) hsettle hrows hfresh
    refine .inr ⟨data.newOrder.row (env 1).newId (env 1).now, stored, ?_, hlasting, ?_, ?_, ?_, ?_⟩
    · rw [World.request_orders, hstored]
    · rfl
    · rfl
    · rfl
    · intro shown hshown
      cases hshown
  | placed hreply hdb hinsert hsettle =>
    obtain ⟨hrows, hfresh⟩ := hinserted hinsert
    obtain ⟨stored, hstored, hlasting⟩ :=
      Settles.rows (data.newOrder.row (env 1).newId (env 1).now) hsettle hrows hfresh
    refine .inr ⟨data.newOrder.row (env 1).newId (env 1).now, stored, ?_, hlasting, ?_, ?_, ?_, ?_⟩
    · rw [World.emit_orders, hstored]
    · rfl
    · rfl
    · rfl
    · exact fun shown hshown => (Except.ok.inj hshown).symm

end Rows

section Served

variable {zodMessage : List Issue → String} {env : Script Turn} {w : World} {userId : UserId}

theorem Error.le_statusCode (e : Error) : 400 ≤ e.statusCode := by
  cases e with
  | app cls m => cases cls <;> simp [statusCode]
  | plain m => simp [statusCode]

theorem present_lt {rethrown : List ErrorClass} {fallback : String}
    {r : Except Error (ApiResponse OrderData)} (h : (present rethrown fallback r).status < 300) :
    r = .ok (present rethrown fallback r) := by
  cases r with
  | ok response => rfl
  | error err =>
    have hstatus : 400 ≤ (present rethrown fallback (.error err)).status := by
      simp only [present]
      split
      · exact err.le_statusCode
      · exact Nat.le_add_left 400 100
    omega

variable (env w) in
theorem respond_create_error {body : Option Json} {found : List Issue}
    (h : Schema.parse OrderController.createOrderSchema body = .error found) :
    respond env (OrderController.create zodMessage body) w =
      (present [.badRequest] "Failed to create order" (.error (.plain (zodMessage found))), w) := by
  rw [OrderController.create, respond_guarded, h]
  rfl

variable (env w) in
theorem respond_create_ok {body : Option Json} {data : List (String × Json)}
    (h : Schema.parse OrderController.createOrderSchema body = .ok data) :
    respond env (OrderController.create zodMessage body) w =
      (present [.badRequest] "Failed to create order"
          (((OrderService.create (.ofFields data)).play World.handle env w).1.map fun order =>
            .success 201 "Order created successfully" (.order order)),
        ((OrderService.create (.ofFields data)).play World.handle env w).2) := by
  rw [OrderController.create, respond_guarded, h]
  simp only
  rw [Prog.play_map]

end Served

section Paths

theorem slash_notMem {id : String} (hid : isUuid id) : '/' ∉ id.toList := by
  intro hmem
  obtain ⟨i, hi⟩ := List.mem_iff_getElem?.mp hmem
  rw [isUuid, Bool.and_eq_true, List.all_eq_true] at hid
  have hchar := hid.2 ('/', i) (List.mem_zipIdx_iff_getElem?.mpr hi)
  simp only at hchar
  split at hchar
  · exact absurd hchar (by decide)
  · exact absurd hchar (by decide)

theorem segments_eq {path : String} {names : List String}
    (hpath : path.toList = ['/'].intercalate (names.map String.toList)) (hne : names ≠ [])
    (hnames : ∀ name ∈ names, '/' ∉ name.toList) : OrderApp.segments path = names := by
  rw [OrderApp.segments, hpath, List.splitOn_intercalate, List.map_map]
  · simp
  · simpa using hnames
  · simpa using hne

theorem isUuid_ne_empty {id : String} (hid : isUuid id) : id ≠ "" := by
  rintro rfl
  exact absurd hid (by decide)

theorem segments_orders : OrderApp.segments "/orders" = ["", "orders"] := by decide

theorem segments_order {id : String} (hid : isUuid id) :
    OrderApp.segments ("/orders/" ++ id) = ["", "orders", id] := by
  refine segments_eq ?_ (List.cons_ne_nil _ _) ?_
  · simp [List.intercalate]
  · simp [slash_notMem hid]

theorem segments_cancel {id : String} (hid : isUuid id) :
    OrderApp.segments ("/orders/" ++ id ++ "/cancel") = ["", "orders", id, "cancel"] := by
  refine segments_eq ?_ (List.cons_ne_nil _ _) ?_
  · simp [List.intercalate]
  · simp [slash_notMem hid]

end Paths

theorem Cancels.effect {env : Script Turn} {w : World} {userId : UserId} {id : OrderId}
    {out : Except Error Order × World} (h : Cancels env id userId w out) :
    (OrdersInput.cancel id).Effect userId w out.2 := by
  cases h with
  | unread => exact .inl rfl
  | missing => exact .inl rfl
  | settled => exact .inl rfl
  | unwritten => exact .inl (by rw [World.request_orders])
  | @cancelled order hdb hfind huser hstatus hdb' =>
    have hmem := (World.own_eq_some.mp (own_of_find hfind huser)).1
    refine .inr ⟨order, hmem, Table.key_of_find? hfind, hstatus, ?_⟩
    rw [World.emit_orders]
    change (World.request _ _ _ _).orders.rows.map _ = _
    rw [World.request_orders]
    rfl

theorem Cancels.shown {env : Script Turn} {w : World} {userId : UserId} {id : OrderId}
    {out : Except Error Order × World} {cancelled : Order} (h : Cancels env id userId w out)
    (hout : out.1 = .ok cancelled) : ∃ order ∈ w.owned userId, order.id = id ∧
      { order with status := .cancelled } ∈ out.2.owned userId ∧
      { order with status := .cancelled } = cancelled := by
  have howned := h.owned
  cases h with
  | unread => cases hout
  | missing => cases hout
  | settled => cases hout
  | unwritten => cases hout
  | @cancelled order hdb hfind huser hstatus hdb' =>
    obtain ⟨hmem, hid⟩ := World.own_eq_some.mp (own_of_find hfind huser)
    refine ⟨order, hmem, hid, ?_, Except.ok.inj hout⟩
    rw [howned]
    exact List.mem_map.mpr ⟨order, hmem, if_pos hid⟩

namespace OrdersInput

variable {zodMessage : List Issue → String} (env : Script Turn) (w : World) (userId : UserId)

open OrderApp

theorem serves_list (query : Except String Unit) : (list query).Serves userId w
    (serve zodMessage env .get "/orders" (.user userId) w) := by
  have hroute : serve zodMessage env .get "/orders" (.user userId) w =
      respond env (OrderController.getUserOrders userId) w := by
    simp [serve, orderRoutes, segments_orders, ForwardData.userId]
  rw [hroute, respond_getUserOrders]
  refine ⟨rfl, fun hstatus => ?_⟩
  have hok := present_lt hstatus
  by_cases huser : userId = ""
  · rw [if_pos huser] at hok
    cases hok
  · rw [if_neg huser] at hok ⊢
    cases hdb : (env 0).db with
    | reject m =>
      rw [World.query, hdb] at hok
      cases hok
    | accept =>
      rw [World.query, hdb]
      exact ⟨_, rfl, (env 0).newestFirst, rfl⟩

theorem serves_get {id : String} (hid : isUuid id) : (get id).Serves userId w
    (serve zodMessage env .get ("/orders/" ++ id) (.user userId) w) := by
  have hroute : serve zodMessage env .get ("/orders/" ++ id) (.user userId) w =
      respond env (OrderController.getById id userId) w := by
    simp [serve, orderRoutes, segments_order hid, isUuid_ne_empty hid, ForwardData.userId]
  rw [hroute, respond_getById]
  refine ⟨rfl, fun hstatus => ?_⟩
  have hok := present_lt hstatus
  cases hdb : (env 0).db with
  | reject m =>
    rw [World.query, hdb] at hok
    cases hok
  | accept =>
    cases hown : w.own userId id with
    | none =>
      rw [World.query, hdb, hown] at hok
      cases hok
    | some order =>
      obtain ⟨hmem, hkey⟩ := World.own_eq_some.mp hown
      rw [World.query, hdb]
      exact ⟨.order order, rfl, order, hmem, hkey, rfl⟩

theorem serves_cancel {id : String} (hid : isUuid id) : (cancel id).Serves userId w
    (serve zodMessage env .put ("/orders/" ++ id ++ "/cancel") (.user userId) w) := by
  have hroute : serve zodMessage env .put ("/orders/" ++ id ++ "/cancel") (.user userId) w =
      respond env (OrderController.cancel id userId) w := by
    simp [serve, orderRoutes, segments_cancel hid, ForwardData.userId]
  rw [hroute, respond_cancel]
  have h := cancels env w id userId
  refine ⟨h.effect, fun hstatus => ?_⟩
  have hok := present_lt hstatus
  rw [← h.reply] at hok ⊢
  cases hout : ((OrderService.cancel id userId).play World.handle env w).1 with
  | error e =>
    rw [hout] at hok
    cases hok
  | ok cancelled =>
    obtain ⟨order, hmem, hid', hmem', rfl⟩ := h.shown hout
    exact ⟨_, rfl, order, hmem, hid', hmem', rfl⟩

theorem serves_create {body : Option Json} {data : List (String × Json)}
    (hdata : Schema.parse OrdersRoutes.createOrderSchema body = .ok data) :
    (create body).Serves userId w
      (serve zodMessage env .post "/orders"
        (.order userId (CreateOrderBody.ofFields data).items
          (CreateOrderBody.ofFields data).shippingAddress
          (CreateOrderBody.ofFields data).paymentMethod) w) := by
  obtain ⟨hnonempty, hitems⟩ := items_accepted hdata
  have hroute : ∀ sent, serve zodMessage env .post "/orders" sent w =
      respond env (OrderController.create zodMessage (some sent.json)) w := by
    intro sent
    simp [serve, orderRoutes, segments_orders]
  rw [hroute]
  cases hparse : Schema.parse OrderController.createOrderSchema
      (some (ForwardData.order userId (CreateOrderBody.ofFields data).items
        (CreateOrderBody.ofFields data).shippingAddress
        (CreateOrderBody.ofFields data).paymentMethod).json) with
  | error found =>
    rw [respond_create_error env w hparse]
    exact ⟨.inl rfl, fun hstatus => by cases present_lt hstatus⟩
  | ok fields =>
    rw [respond_create_ok env w hparse]
    have hfields := parse_json (isUuid_of_parse hparse) hitems
      (CreateOrderBody.ofFields data).shippingAddress (CreateOrderBody.ofFields data).paymentMethod
    rw [hparse] at hfields
    have hcreates := creates env w (CreateOrderData.ofFields fields)
    rw [Except.ok.inj hfields] at hcreates ⊢
    obtain ⟨hrows, e, he⟩ | ⟨order, stored, hrows, hlasting, huser, hlines, haddress, hshown⟩ :=
      hcreates.rows
    · refine ⟨.inl hrows, fun hstatus => ?_⟩
      have hok := present_lt hstatus
      rw [he] at hok
      cases hok
    · have hplaced : PlacedWith userId (CreateOrderBody.ofFields data) order :=
        ⟨huser, hlines, haddress, hitems, hnonempty⟩
      refine ⟨.inr ⟨_, order, stored, ⟨data, hdata, rfl⟩, hplaced, hlasting, hrows⟩,
        fun hstatus => ?_⟩
      have hok := present_lt hstatus
      cases hout : ((OrderService.create ⟨userId, (CreateOrderBody.ofFields data).items,
          (CreateOrderBody.ofFields data).shippingAddress,
          (CreateOrderBody.ofFields data).paymentMethod⟩).play World.handle env w).1 with
      | error e =>
        rw [hout] at hok
        cases hok
      | ok shown =>
        obtain rfl := hshown shown hout
        exact ⟨_, rfl, _, shown, stored, ⟨data, hdata, rfl⟩, hplaced, hlasting, hrows, rfl⟩

end OrdersInput

section Gateway

variable {zodMessage : List Issue → String} {render : Order → List (String × Json)}
  {userId : UserId} {input : OrdersInput} {w : World}

open OrdersInput

theorem OrdersInput.answers_validationError (text : String) :
    input.Answers render userId w (validationError text, w) where
  malformed _ := ⟨rfl, rfl⟩
  effect := .refl userId w input
  shown := nofun

theorem unwrap_json {response : ApiResponse OrderData} {found : OrderData}
    (h : response.data = some found) : OrdersRoutes.unwrap found.key (response.json render) =
      Pure.pure (found.payload render) := by
  have hdata : (response.json render).get "data" = .ok (some (found.json render)) := by
    simp [ApiResponse.json, Json.get, List.lookup_cons, h]
  have hkey : (found.json render).get found.key = .ok (some (found.payload render)) := by
    simp [OrderData.json, Json.get]
  have hunwrap : OrdersRoutes.unwrap found.key (response.json render) = (do
      let value ← readField found.key (found.json render)
      Pure.pure (OrdersRoutes.nullish value (found.json render))) := by
    rw [OrdersRoutes.unwrap, readField, hdata]
    rfl
  rw [hunwrap, readField, hkey]
  cases found with
  | orders rows => rfl
  | order row => rfl

def OrdersInput.Answered (render : Order → List (String × Json)) (userId : UserId) (input : OrdersInput)
    (w : World) (r : Except Error (ApiResponse (Option Json))) (w' : World) : Prop :=
  ∃ reply, r = .ok reply ∧ input.Answers render userId w (reply, w')

theorem wp_forwarded {path : String} {method : HttpMethod} {data : ForwardData}
    (hserves : ∀ env, input.Serves userId w (OrderApp.serve zodMessage env method path data w))
    {key : String} (hkey : ∀ w' found, input.Shown userId w w' found → found.key = key)
    (hformed : ¬ input.Malformed) (status : Nat) (message fallback : String) :
    (orServerError fallback (OrdersRoutes.forwarded path method data key status message)).wp
      (fun _ => True) (Storefront.handle zodMessage render) (Answered render userId input w) w := by
  rw [orServerError, Prog.wp_tryCatch, OrdersRoutes.forwarded, Prog.wp_bind, Prog.wp_perform]
  intro c _
  have hfailed : ∀ (text : String) w', input.Effect userId w w' →
      Answered render userId input w (.ok (.failure 500 text)) w' :=
    fun text w' heffect => ⟨_, rfl, fun h => absurd h hformed, heffect, nofun⟩
  simp only [Storefront.handle, Storefront.proxied]
  split
  · exact hfailed _ _ (.refl userId w input)
  split
  · exact hfailed _ _ (hserves c.order).effect
  split
  · next hstatus =>
    obtain ⟨found, hfound, hshown⟩ := (hserves c.order).shown hstatus
    obtain rfl := hkey _ _ hshown
    simp only [Prog.cont_ok, Prog.wp_bind, unwrap_json hfound, Prog.wp_pure]
    refine ⟨_, rfl, fun h => absurd h hformed, (hserves c.order).effect, fun j hj => ?_⟩
    exact ⟨found, hshown, (Option.some.inj hj).symm⟩
  · exact hfailed _ _ (hserves c.order).effect

/-- The handler of an input, once the user is known. -/
def OrdersInput.handler (userId : UserId) : OrdersInput → GatewayM (ApiResponse (Option Json))
  | list query => OrdersRoutes.list userId query
  | get id => OrdersRoutes.get userId id
  | create body => OrdersRoutes.create userId
      ((parseBody OrdersRoutes.createOrderSchema body).map CreateOrderBody.ofFields)
  | cancel id => OrdersRoutes.cancel userId id

theorem wp_handler (userId : UserId) (input : OrdersInput) (w : World) :
    (input.handler userId).wp (fun _ => True) (Storefront.handle zodMessage render)
      (Answered render userId input w) w := by
  cases input with
  | list query =>
    cases query with
    | error text => exact ⟨_, rfl, answers_validationError _⟩
    | ok query =>
      refine wp_forwarded (fun env => serves_list env w userId _) (fun w' found h => ?_) ?_ _ _ _
      · obtain ⟨newestFirst, rfl⟩ := h
        rfl
      · rintro ⟨text, htext⟩
        cases htext
  | get id =>
    cases hid : isUuid id with
    | false =>
      rw [handler, OrdersRoutes.get, if_pos hid]
      exact ⟨_, rfl, answers_validationError _⟩
    | true =>
      rw [handler, OrdersRoutes.get, if_neg (by simp [hid])]
      refine wp_forwarded (fun env => serves_get env w userId hid) (fun w' found h => ?_) ?_ _ _ _
      · obtain ⟨order, -, -, rfl⟩ := h
        rfl
      · intro h
        cases hid.symm.trans h
  | create body =>
    rw [handler]
    cases hbody : parseBody OrdersRoutes.createOrderSchema body with
    | error text => exact ⟨_, rfl, answers_validationError _⟩
    | ok data =>
      have hdata := parse_of_parseBody hbody
      refine wp_forwarded (fun env => serves_create env w userId hdata) (fun w' found h => ?_) ?_
        _ _ _
      · obtain ⟨accepted, order, stored, -, -, -, -, rfl⟩ := h
        rfl
      · exact fun h => h _ ⟨data, hdata, rfl⟩
  | cancel id =>
    cases hid : isUuid id with
    | false =>
      rw [handler, OrdersRoutes.cancel, if_pos hid]
      exact ⟨_, rfl, answers_validationError _⟩
    | true =>
      rw [handler, OrdersRoutes.cancel, if_neg (by simp [hid])]
      refine wp_forwarded (fun env => serves_cancel env w userId hid) (fun w' found h => ?_) ?_
        _ _ _
      · obtain ⟨order, -, -, -, rfl⟩ := h
        rfl
      · intro h
        cases hid.symm.trans h

variable {config : Config} {visit : Visit}

theorem play_verified {env : Script StorefrontMove} {token : Token} {user : JWTPayload}
    (h : Jwt.verify config.jwtAccessSecret (env 0).now token = .ok user) (input : OrdersInput) :
    (ordersRoutes config (some (.bearer token)) input.parse).play
        (Storefront.handle zodMessage render) env w =
      (input.handler user.userId).play (Storefront.handle zodMessage render) env.tail w := by
  obtain ⟨k, hroutes, hnext⟩ : ∃ k, ordersRoutes config (some (.bearer token)) input.parse =
      .await GatewayOp.dateNow k ∧ k (.ok (env 0).now) = input.handler user.userId := by
    refine ⟨_, rfl, ?_⟩
    simp only [Prog.settle, Prog.bind, h]
    cases input <;> rfl
  rw [hroutes, Prog.play_await]
  exact congrArg (fun p => Prog.play _ env.tail p w) hnext

theorem play_refused {env : Script StorefrontMove} {token : Token} {e : Error}
    (h : Jwt.verify config.jwtAccessSecret (env 0).now token = .error e) (input : OrdersInput) :
    (ordersRoutes config (some (.bearer token)) input.parse).play
        (Storefront.handle zodMessage render) env w =
      (.ok (unauthorized "Invalid or expired token"), w) := by
  obtain ⟨k, hroutes, hnext⟩ : ∃ k, ordersRoutes config (some (.bearer token)) input.parse =
      .await GatewayOp.dateNow k ∧
        k (.ok (env 0).now) = .pure (unauthorized "Invalid or expired token") := by
    refine ⟨_, rfl, ?_⟩
    simp only [Prog.settle, Prog.bind, h]
    rfl
  rw [hroutes, Prog.play_await]
  exact congrArg (fun p => Prog.play _ env.tail p w) hnext

theorem Visit.route_unauthorized (h : visit.caller config = none) (input : OrdersInput) :
    ∃ text, visit.route config zodMessage input w = (unauthorized text, w) := by
  obtain ⟨authorization, sent, env, render⟩ := visit
  cases authorization with
  | none => exact ⟨_, rfl⟩
  | some authorization =>
    cases authorization with
    | other text => exact ⟨_, rfl⟩
    | bearer token =>
      cases hverify : Jwt.verify config.jwtAccessSecret (env 0).now token with
      | ok payload =>
        simp only [caller, hverify] at h
        cases h
      | error e =>
        rw [route, play_refused hverify]
        exact ⟨_, rfl⟩

theorem Visit.route_authorized {user : JWTPayload} (h : visit.caller config = some user)
    (input : OrdersInput) :
    input.Answers visit.render user.userId w (visit.route config zodMessage input w) := by
  obtain ⟨authorization, sent, env, render⟩ := visit
  cases authorization with
  | none => cases h
  | some authorization =>
    cases authorization with
    | other text => cases h
    | bearer token =>
      cases hverify : Jwt.verify config.jwtAccessSecret (env 0).now token with
      | error e =>
        simp only [caller, hverify] at h
        cases h
      | ok payload =>
        simp only [caller, hverify] at h
        obtain rfl := Option.some.inj h
        have hwp : (input.handler payload.userId).wp (fun _ => True)
            (Storefront.handle zodMessage render) (Answered render payload.userId input w) w :=
          wp_handler payload.userId input w
        obtain ⟨reply, hreply, hanswers⟩ : Answered render payload.userId input w
            ((input.handler payload.userId).play (Storefront.handle zodMessage render) env.tail w).1
            ((input.handler payload.userId).play (Storefront.handle zodMessage render) env.tail w).2 :=
          hwp.play fun _ => trivial
        rw [route, play_verified hverify]
        simp only [hreply]
        exact hanswers

end Gateway

/-- Whom Fastify's validation or the hook refuses is told so, and changes nothing.  With a token, a
request reads and changes orders of the token's user only, whatever its body and its path, whatever
fails, and an order is placed with exactly what the gateway accepted. -/
theorem storefront (config : Config) (zodMessage : List Issue → String)
    (validation : Validation (Except String Unit)) (visit : Visit) (w : World) :
    (∀ text, visit.input.validated validation = .error text →
        visit.serve config zodMessage validation w = (errorHandler (.badRequest text), w)) ∧
      ∀ input, visit.input.validated validation = .ok input →
        (visit.caller config = none →
          (visit.serve config zodMessage validation w).1.status = 401 ∧
            (visit.serve config zodMessage validation w).2 = w) ∧
        ∀ user, visit.caller config = some user →
          input.Answers visit.render user.userId w (visit.serve config zodMessage validation w) := by
  refine ⟨fun text h => by rw [Visit.serve, h], fun input h => ?_⟩
  have hserve : visit.serve config zodMessage validation w =
      visit.route config zodMessage input w := by rw [Visit.serve, h]
  rw [hserve]
  constructor
  · intro hcaller
    obtain ⟨text, hroute⟩ := Visit.route_unauthorized hcaller input
    rw [hroute]
    exact ⟨rfl, rfl⟩
  · exact fun user hcaller => Visit.route_authorized hcaller input

section Run

variable (config : Config) (zodMessage : List Issue → String)
  (validation : Validation (Except String Unit))

/-- The store after requests that are served one after the other. -/
def Visit.run (visits : List Visit) (w : World) : World :=
  visits.foldl (fun w visit => (visit.serve config zodMessage validation w).2) w

def Visit.Placed (visit : Visit) (order : Order) : Prop :=
  ∃ user, visit.caller config = some user ∧
    ∃ body, visit.input.validated validation = .ok (.create body) ∧
    ∃ accepted, OrdersInput.Accepts body accepted ∧ PlacedWith user.userId accepted order

/-- Where the rows of a store come from: they were there, or `placed` accounts for them. -/
structure Provenance (visits : List Visit) (w w' : World) (placed : List (Visit × Order)) : Prop where
  order : (placed.map Prod.fst).Sublist visits
  asked : ∀ p ∈ placed, p.1.Placed config validation p.2
  rows : List.Forall₂ Lasting (w.orders.rows ++ placed.map Prod.snd) w'.orders.rows

variable {config zodMessage validation} {w w' w'' : World} {visits visits' : List Visit}
  {placed placed' : List (Visit × Order)}

theorem Lasting.trans {a b c : Order} (h : Lasting a b) (h' : Lasting b c) : Lasting a c :=
  ⟨h'.id.trans h.id, h'.userId.trans h.userId, h'.items.trans h.items,
    h'.shippingAddress.trans h.shippingAddress⟩

theorem lasting_refl (rows : List Order) : List.Forall₂ Lasting rows rows :=
  List.forall₂_same.mpr fun row _ => .refl row

theorem lasting_trans {as bs cs : List Order} (h : List.Forall₂ Lasting as bs)
    (h' : List.Forall₂ Lasting bs cs) : List.Forall₂ Lasting as cs := by
  induction h generalizing cs with
  | nil => exact h'
  | cons hab _ ih =>
    cases h' with
    | cons hbc hrest => exact .cons (hab.trans hbc) (ih hrest)

theorem Provenance.still (visits : List Visit)
    (h : List.Forall₂ Lasting w.orders.rows w'.orders.rows) :
    Provenance config validation visits w w' [] where
  order := List.nil_sublist _
  asked _ hp := absurd hp List.not_mem_nil
  rows := by
    rw [List.map_nil, List.append_nil]
    exact h

theorem Provenance.append (h : Provenance config validation visits w w' placed)
    (h' : Provenance config validation visits' w' w'' placed') :
    Provenance config validation (visits ++ visits') w w'' (placed ++ placed') where
  order := by
    rw [List.map_append]
    exact h.order.append h'.order
  asked p hp := (List.mem_append.mp hp).elim (h.asked p) (h'.asked p)
  rows := by
    rw [List.map_append, ← List.append_assoc]
    exact lasting_trans (List.rel_append h.rows (lasting_refl _)) h'.rows

theorem provenance_serve (visit : Visit) (w : World) : ∃ placed,
    Provenance config validation [visit] w
      (visit.serve config zodMessage validation w).2 placed := by
  cases hinput : visit.input.validated validation with
  | error text =>
    rw [Visit.serve, hinput]
    exact ⟨[], .still _ (lasting_refl _)⟩
  | ok input =>
    rw [Visit.serve, hinput]
    cases hcaller : visit.caller config with
    | none =>
      obtain ⟨text, hroute⟩ : ∃ text, visit.route config zodMessage input w =
        (unauthorized text, w) := Visit.route_unauthorized hcaller input
      simp only [hroute]
      exact ⟨[], .still _ (lasting_refl _)⟩
    | some user =>
      have heffect : input.Effect user.userId w (visit.route config zodMessage input w).2 :=
        (Visit.route_authorized hcaller input).effect
      cases input with
      | list query =>
        have hstill : (visit.route config zodMessage (.list query) w).2 = w := heffect
        simp only [hstill]
        exact ⟨[], .still _ (lasting_refl _)⟩
      | get id =>
        have hstill : (visit.route config zodMessage (.get id) w).2 = w := heffect
        simp only [hstill]
        exact ⟨[], .still _ (lasting_refl _)⟩
      | create body =>
        obtain hrows | ⟨accepted, order, stored, haccepts, hplaced, hlasting, hrows⟩ := heffect
        · exact ⟨[], .still _ (hrows ▸ lasting_refl _)⟩
        · refine ⟨[(visit, order)], List.Sublist.refl _, ?_, ?_⟩
          · intro p hp
            obtain rfl := List.mem_singleton.mp hp
            exact ⟨user, hcaller, body, hinput, accepted, haccepts, hplaced⟩
          · rw [hrows]
            exact List.rel_append (lasting_refl _) (.cons hlasting .nil)
      | cancel id =>
        obtain hrows | ⟨order, hmem, hid, hstatus, hrows⟩ := heffect
        · exact ⟨[], .still _ (hrows ▸ lasting_refl _)⟩
        · refine ⟨[], .still _ ?_⟩
          rw [hrows, List.forall₂_map_right_iff]
          refine List.forall₂_same.mpr fun row _ => ?_
          split
          · exact ⟨rfl, rfl, rfl, rfl⟩
          · exact .refl row

theorem OrdersInput.Effect.owned {input : OrdersInput} {userId userId' : UserId}
    (h : input.Effect userId w w') (hne : userId ≠ userId') : w'.owned userId' = w.owned userId' := by
  cases input with
  | list query => exact congrArg (World.owned · userId') h
  | get id => exact congrArg (World.owned · userId') h
  | create body =>
    obtain hrows | ⟨accepted, order, stored, -, hplaced, hlasting, hrows⟩ := h
    · rw [World.owned, World.owned, hrows]
    · have huser : stored.userId ≠ userId' := fun huser =>
        hne (hplaced.userId.symm.trans (hlasting.userId.symm.trans huser))
      rw [World.owned, World.owned, hrows, List.filter_append]
      simp [huser]
  | cancel id =>
    obtain hrows | ⟨order, hmem, hid, -, hrows⟩ := h
    · rw [World.owned, World.owned, hrows]
    · obtain ⟨hrow, huser⟩ := List.mem_filter.mp hmem
      have hkeep : ∀ row ∈ w.owned userId',
          (if row.id = id then { row with status := .cancelled } else row) = row := by
        intro row hrow'
        obtain ⟨hrow', huser'⟩ := List.mem_filter.mp hrow'
        refine if_neg fun hid' => hne ?_
        have hsame : row = order :=
          List.inj_on_of_nodup_map w.orders.nodup hrow' hrow (hid'.trans hid.symm)
        rw [← of_decide_eq_true huser, ← of_decide_eq_true huser', hsame]
      have hfilter : ∀ row ∈ w.orders.rows,
          decide ((if row.id = id then { row with status := .cancelled } else row).userId =
            userId') = decide (row.userId = userId') := by
        intro row _
        split <;> rfl
      rw [World.owned, hrows, List.filter_map]
      refine Eq.trans (congrArg _ (List.filter_congr hfilter)) ?_
      exact (List.map_congr_left hkeep).trans (List.map_id _)

theorem owned_serve {visit : Visit} {userId : UserId}
    (h : ∀ user, visit.caller config = some user → user.userId ≠ userId) (w : World) :
    (visit.serve config zodMessage validation w).2.owned userId = w.owned userId := by
  cases hinput : visit.input.validated validation with
  | error text => rw [Visit.serve, hinput]
  | ok input =>
    rw [Visit.serve, hinput]
    cases hcaller : visit.caller config with
    | none =>
      obtain ⟨text, hroute⟩ : ∃ text, visit.route config zodMessage input w =
        (unauthorized text, w) := Visit.route_unauthorized hcaller input
      simp only [hroute]
    | some user =>
      have hanswers : input.Answers visit.render user.userId w
        (visit.route config zodMessage input w) := Visit.route_authorized hcaller input
      exact hanswers.effect.owned (h user hcaller)

end Run

/-- After any requests, the rows are those that were there and one at most for each request that
placed an order, in the order of the requests; none has been given to somebody else or refilled.  The
orders of a user are as they were unless somebody had a token of that user. -/
theorem storefront_run (config : Config) (zodMessage : List Issue → String)
    (validation : Validation (Except String Unit)) (visits : List Visit) (w : World) :
    (∃ placed, Provenance config validation visits w
      (Visit.run config zodMessage validation visits w) placed) ∧
      ∀ userId, (∀ visit ∈ visits, ∀ user, visit.caller config = some user → user.userId ≠ userId) →
        (Visit.run config zodMessage validation visits w).owned userId = w.owned userId := by
  constructor
  · induction visits generalizing w with
    | nil => exact ⟨[], .still _ (lasting_refl _)⟩
    | cons visit visits ih =>
      obtain ⟨placed, hplaced⟩ := provenance_serve visit w
      obtain ⟨placed', hplaced'⟩ := ih (visit.serve config zodMessage validation w).2
      exact ⟨placed ++ placed', hplaced.append hplaced'⟩
  · intro userId hvisits
    induction visits generalizing w with
    | nil => rfl
    | cons visit visits ih =>
      have hrest := ih (visit.serve config zodMessage validation w).2 fun visit' hvisit' =>
        hvisits visit' (List.mem_cons_of_mem _ hvisit')
      exact hrest.trans (owned_serve (hvisits visit List.mem_cons_self) w)

end Ecommerce
