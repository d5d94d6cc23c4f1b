import Ecommerce.Catalog.ChangeLog

namespace Ecommerce

open Prog CatalogMessaging

def ProductEvent.undated : ProductEvent → ProductEvent
  | .deleted productId _ => .deleted productId 0
  | event => event

abbrev CatalogServers :=
  EventLoop CatalogRpc CatalogServerOp CatalogServerOp.Res Error CatalogReply CatalogServer

abbrev ServerDoing := Performed CatalogServerOp CatalogServerOp.Res Error

namespace ServerDoing

def owed : ServerDoing → Option ProductEvent
  | ⟨.product (.create _), .ok written⟩ => some (createdEvent written)
  | ⟨.product (.update id data), .ok _⟩ => some (.updated id data)
  | ⟨.product (.delete id), .ok _⟩ => some (.deleted id 0)
  | _ => none

def announced : ServerDoing → Option ProductEvent
  | ⟨.publish event, _⟩ => some event.undated
  | _ => none

def published : ServerDoing → Option ProductEvent
  | ⟨.publish event, .ok _⟩ => some event
  | _ => none

end ServerDoing

open ServerDoing

def Ticks : (op : CatalogServerOp) → Except Error op.Res → Prop
  | .now, r => ∃ t, r = .ok t
  | _, _ => True

structure Silent (done : List ServerDoing) : Prop where
  owed : done.filterMap owed = []
  announced : done.filterMap announced = []

def Owing {α : Type} (event : α → ProductEvent) (done : List ServerDoing) :
    Option (Except Error α) → Prop
  | none => (done.filterMap owed).length ≤ 1 ∧ done.filterMap announced = []
  | some (.ok a) => done.filterMap owed = [(event a).undated] ∧ done.filterMap announced = []
  | some (.error _) => Silent done

/-- What a server has done: one event at most is owed, nothing else is announced, and it is announced
when the server is done. -/
structure Announces (done : List ServerDoing) (settled : Bool) : Prop where
  before : done.filterMap announced <+: done.filterMap owed
  once : (done.filterMap owed).length ≤ 1
  settled : settled → done.filterMap announced = done.filterMap owed

theorem Silent.append {done done' : List ServerDoing} (h : Silent done) (h' : Silent done') :
    Silent (done ++ done') where
  owed := by rw [List.filterMap_append, h.owed, h'.owed]; rfl
  announced := by rw [List.filterMap_append, h.announced, h'.announced]; rfl

theorem Silent.announces {done : List ServerDoing} (h : Silent done) (settled : Bool) :
    Announces done settled where
  before := by rw [h.announced]; exact List.nil_prefix
  once := by rw [h.owed]; exact Nat.zero_le 1
  settled := fun _ => h.announced.trans h.owed.symm

theorem silent_of_still {done : List ServerDoing} (h : ∀ d ∈ done, d.1.Still) : Silent done := by
  have hnone : ∀ d : ServerDoing, d.1.Still → owed d = none ∧ announced d = none := by
    rintro ⟨op, r⟩ hop
    cases op with
    | product op =>
      cases op with
      | create data => exact hop.elim
      | update id data => exact hop.elim
      | delete id => exact hop.elim
      | _ => exact ⟨rfl, rfl⟩
    | publish event => exact hop.elim
    | _ => exact ⟨rfl, rfl⟩
  exact ⟨List.filterMap_eq_nil_iff.mpr fun d hd => (hnone d (h d hd)).1,
    List.filterMap_eq_nil_iff.mpr fun d hd => (hnone d (h d hd)).2⟩

namespace CatalogServer

variable {α : Type}

theorem silent_still {p : CatalogServerM α} (hp : Awaits CatalogServerOp.Still p) :
    p.Reports CatalogServerOp.sync Ticks fun done _ => Silent done :=
  hp.reports.mono fun _ _ h => silent_of_still h

theorem reports_after {q : CatalogM Unit} (hq : Awaits CatalogOp.Still q)
    (hok : (product q).Reports CatalogServerOp.sync Ticks fun _ o => ∀ e, o ≠ some (.error e))
    (a : α) : (product (q >>= fun _ => Pure.pure a)).Reports CatalogServerOp.sync Ticks
      fun done o => Silent done ∧ (o = none ∨ o = some (.ok a)) := by
  have hsilent : (product q).Reports CatalogServerOp.sync Ticks fun done _ => Silent done :=
    silent_still (awaits_embed hq)
  rw [product, embed_bind, reports_bind]
  refine (hsilent.and hok).mono fun done o h => ?_
  obtain ⟨hdone, ho⟩ := h
  rcases o with _ | e | u
  · exact ⟨hdone, .inl rfl⟩
  · exact absurd rfl (ho e)
  · exact ⟨by rwa [List.append_nil], .inr rfl⟩

theorem ok_deletePattern (stem : CacheKey) :
    (product (CacheService.deletePattern stem)).Reports CatalogServerOp.sync Ticks
      fun _ o => ∀ e, o ≠ some (.error e) := by
  rw [product, CacheService.deletePattern, embed_tryCatch]
  exact reports_swallow _ _

theorem ok_invalidate (id : ProductId) :
    (product (ProductService.invalidate id)).Reports CatalogServerOp.sync Ticks
      fun _ o => ∀ e, o ≠ some (.error e) := by
  have hdelete : (product (CacheService.delete (ProductService.itemKey id))).Reports
      CatalogServerOp.sync Ticks fun _ o => ∀ e, o ≠ some (.error e) := by
    rw [product, CacheService.delete, embed_tryCatch]
    exact reports_swallow _ _
  rw [product, ProductService.invalidate, embed_bind, reports_bind]
  refine hdelete.mono fun done o ho => ?_
  rcases o with _ | e | u
  · exact fun e => by simp
  · exact absurd rfl (ho e)
  · exact ok_deletePattern _

theorem owing_await {op : CatalogOp} {k : Except Error op.Res → CatalogM α}
    {event : α → ProductEvent}
    (hok : ∀ r, (product (k (.ok r))).Reports CatalogServerOp.sync Ticks fun done o =>
      Silent done ∧ (o = none ∨ ∃ a, o = some (.ok a) ∧
        owed ⟨.product op, .ok r⟩ = some (event a).undated))
    (herror : ∀ e, owed ⟨.product op, .error e⟩ = none ∧
      ∃ e', product (k (.error e)) = MonadExcept.throw e') :
    (product (Prog.await op k)).Reports CatalogServerOp.sync Ticks (Owing event) := by
  refine ⟨fun _ => ⟨Nat.zero_le 1, rfl⟩, fun r _ => ?_⟩
  cases r with
  | error e =>
    obtain ⟨howed, e', hthrow⟩ := herror e
    have hrest : (product (k (.error e))).Reports CatalogServerOp.sync Ticks
        fun done o => Owing event (⟨.product op, .error e⟩ :: done) o := by
      rw [hthrow, reports_throw]
      exact ⟨by rw [List.filterMap_cons, howed]; rfl, rfl⟩
    exact hrest
  | ok r =>
    refine (hok r).mono fun done o h => ?_
    obtain ⟨hdone, rfl | ⟨a, rfl, howed⟩⟩ := h
    · refine ⟨?_, ?_⟩
      · rw [List.filterMap_cons]
        split <;> simp [hdone.owed]
      · rw [List.filterMap_cons]
        exact hdone.announced
    · refine ⟨?_, ?_⟩
      · rw [List.filterMap_cons, howed, hdone.owed]
      · rw [List.filterMap_cons]
        exact hdone.announced

theorem owing_create (data : ProductData) : (product (ProductService.create data)).Reports
    CatalogServerOp.sync Ticks (Owing createdEvent) := by
  refine owing_await (fun written => ?_) fun e => ⟨rfl, e, rfl⟩
  refine (reports_after ProductService.still_deletePattern (ok_deletePattern _) written).mono
    fun done o h => ⟨h.1, h.2.imp_right fun ho => ⟨written, ho, rfl⟩⟩

theorem owing_update (id : ProductId) (data : ProductData) :
    (product (ProductService.update id data)).Reports CatalogServerOp.sync Ticks
      (Owing fun _ => .updated id data) := by
  refine owing_await (fun written => ?_) fun e => ⟨rfl, e, rfl⟩
  refine (reports_after (ProductService.still_invalidate id) (ok_invalidate id) written).mono
    fun done o h => ⟨h.1, h.2.imp_right fun ho => ⟨written, ho, rfl⟩⟩

theorem owing_delete (id : ProductId) (deletedAt : Int) :
    (product (ProductService.delete id)).Reports CatalogServerOp.sync Ticks
      (Owing fun _ => .deleted id deletedAt) := by
  refine owing_await (fun deleted => ?_) fun e => ⟨rfl, .notFound "Product not found", rfl⟩
  refine (reports_after (ProductService.still_invalidate id) (ok_invalidate id) true).mono
    fun done o h => ⟨h.1, h.2.imp_right fun ho => ⟨true, ho, rfl⟩⟩

theorem reports_publish (apiName : String) (event : ProductEvent) (reply : CatalogReply) :
    (CatalogMessaging.publish apiName event >>= fun _ => Pure.pure reply).Reports
      CatalogServerOp.sync Ticks fun done _ =>
        done.filterMap owed = [] ∧ done.filterMap announced = [event.undated] := by
  have hpublish : (CatalogMessaging.publish apiName event).Reports CatalogServerOp.sync Ticks
      fun done o => (done.filterMap owed = [] ∧ done.filterMap announced = [event.undated]) := by
    rw [CatalogMessaging.publish, reports_tryCatch, reports_perform]
    refine ⟨by simp [CatalogServerOp.sync], fun r _ => ?_⟩
    cases r with
    | ok u => exact ⟨rfl, rfl⟩
    | error e =>
      refine (silent_still (still_addErrorHelper apiName e)).mono fun done o hdone => ⟨?_, ?_⟩
      · rw [List.filterMap_append, hdone.owed]
        rfl
      · rw [List.filterMap_append, hdone.announced]
        rfl
  rw [reports_bind]
  refine hpublish.mono fun done o h => ?_
  rcases o with _ | e | u
  · exact h
  · exact h
  · simpa only [reports_pure, List.append_nil] using h

theorem announces_write {p : CatalogM α} {event : α → ProductEvent}
    {f : α → CatalogServerM CatalogReply}
    (hp : (product p).Reports CatalogServerOp.sync Ticks (Owing event))
    (hf : ∀ a, (f a).Reports CatalogServerOp.sync Ticks fun done _ =>
      done.filterMap owed = [] ∧ done.filterMap announced = [(event a).undated]) :
    (product p >>= f).Reports CatalogServerOp.sync Ticks
      fun done o => Announces done o.isSome := by
  rw [reports_bind]
  refine hp.mono fun done o h => ?_
  rcases o with _ | e | a
  · obtain ⟨howed, hannounced⟩ := h
    refine ⟨?_, howed, fun hsettled => by cases hsettled⟩
    rw [hannounced]
    exact List.nil_prefix
  · exact Silent.announces h _
  · obtain ⟨howed, hannounced⟩ := h
    refine (hf a).mono fun done' o' h' => ?_
    have hequal : (done ++ done').filterMap announced = (done ++ done').filterMap owed := by
      rw [List.filterMap_append, List.filterMap_append, hannounced, howed, h'.1, h'.2]
      rfl
    refine ⟨hequal ▸ List.prefix_rfl, ?_, fun _ => hequal⟩
    rw [List.filterMap_append, howed, h'.1]
    exact le_rfl

theorem announces_answered {apiName : String} {text : Error → String}
    {body : CatalogServerM CatalogReply}
    (hbody : body.Reports CatalogServerOp.sync Ticks fun done o => Announces done o.isSome) :
    (answered apiName text body).Reports CatalogServerOp.sync Ticks
      fun done o => Announces done o.isSome := by
  rw [answered, reports_tryCatch]
  refine hbody.mono fun done o h => ?_
  rcases o with _ | e | reply
  · exact h
  · have hfailed : Awaits CatalogServerOp.Still
        (addErrorHelper apiName e >>= fun _ => Pure.pure (CatalogReply.failed (text e))) :=
      (still_addErrorHelper apiName e).bind fun _ => trivial
    refine (silent_still hfailed).mono fun done' o' h' => ?_
    have hequal : (done ++ done').filterMap announced = (done ++ done').filterMap owed := by
      rw [List.filterMap_append, List.filterMap_append, h'.announced, h'.owed, h.settled rfl]
    refine ⟨hequal ▸ List.prefix_rfl, ?_, fun _ => hequal⟩
    rw [List.filterMap_append, h'.owed, List.append_nil]
    exact h.once
  · exact h

theorem announces_still {p : CatalogServerM CatalogReply} (hp : Awaits CatalogServerOp.Still p) :
    p.Reports CatalogServerOp.sync Ticks fun done o => Announces done o.isSome :=
  (silent_still hp).mono fun _ _ h => h.announces _

theorem announces_handler (engine : Engine) (request : CatalogRpc) :
    (handler engine request).Reports CatalogServerOp.sync Ticks
      fun done o => Announces done o.isSome := by
  cases request with
  | productList query =>
    exact announces_answered (announces_still (still_product (ProductService.still_getAll query)))
  | productGet productId =>
    exact announces_answered
      (announces_still (still_product (ProductService.still_getById productId)))
  | productCreate data =>
    exact announces_answered (announces_write (owing_create data) fun _ => reports_publish ..)
  | productUpdate productId data =>
    exact announces_answered
      (announces_write (owing_update productId data) fun _ => reports_publish ..)
  | productDelete productId =>
    refine announces_answered (announces_write (owing_delete productId 0) fun _ => ?_)
    rw [reports_bind, reports_perform]
    refine ⟨by simp [CatalogServerOp.sync], fun r hr => ?_⟩
    obtain ⟨deletedAt, rfl⟩ := hr
    exact reports_publish ..
  | categoryList =>
    exact announces_answered (announces_still
      (Awaits.bind ⟨trivial, fun r => awaits_settle r⟩ fun _ => trivial))
  | categoryGet categoryId =>
    exact announces_answered (announces_still
      (Awaits.bind ⟨trivial, fun r => awaits_settle r⟩ fun _ => trivial))
  | categoryCreate data => exact announces_answered (announces_still (still_category _))
  | categoryUpdate categoryId data => exact announces_answered (announces_still (still_category _))
  | categoryDelete categoryId => exact announces_answered (announces_still (still_category _))

variable (engine : Engine) (queries : CategoryQueries)

/-- Requests that overlap: one may start while others wait for the database, Redis or a turn. -/
def run (s : CatalogServer) (events : List (LoopEvent CatalogRpc CatalogServerMove)) :
    CatalogServers :=
  events.foldl (EventLoop.step CatalogServerOp.sync (fun _ => handle engine queries)
    (handler engine)) (.idle s)

/-- What the log says about committed writes and their events. -/
structure AnnouncedOnce (s : CatalogServer) (l : CatalogServers) : Prop where
  each : ∀ (i : Nat) a p, l.tasks[i]? = some (a, p) → Announces (l.history i) p.settlement.isSome
  rest : (∀ t ∈ l.tasks, t.2.settlement.isSome) →
    ((l.log.map Prod.snd).filterMap announced).Perm ((l.log.map Prod.snd).filterMap owed)
  events : l.state.events = s.events ++ (l.log.map Prod.snd).filterMap published

variable {engine queries}

theorem ticks_handle (c : CatalogServerMove) (op : CatalogServerOp) (s : CatalogServer) :
    Ticks op (handle engine queries c op s).1 := by
  cases op with
  | now => exact ⟨_, rfl⟩
  | _ => trivial

theorem events_handle (c : CatalogServerMove) (op : CatalogServerOp) (s : CatalogServer) :
    (handle engine queries c op s).2.events =
      s.events ++ [(⟨op, (handle engine queries c op s).1⟩ : ServerDoing)].filterMap published := by
  cases op with
  | publish event =>
    simp only [handle]
    split <;> simp [published]
  | createError apiName errMessage =>
    simp only [handle]
    split <;> simp [published]
  | findCategories => simp [handle, query_snd, published]
  | findCategory id => simp [handle, query_snd, published]
  | _ => simp [handle, published]

/-- However requests overlap and whatever fails: a write that is committed is announced once, nothing
else is, and the events are those that the channel took. -/
theorem announced_once (s : CatalogServer)
    (events : List (LoopEvent CatalogRpc CatalogServerMove)) :
    AnnouncedOnce s (run engine queries s events) := by
  have heach : ∀ (i : Nat) a p, (run engine queries s events).tasks[i]? = some (a, p) →
      Announces ((run engine queries s events).history i) p.settlement.isSome :=
    fun i a p hp => EventLoop.reported (fun _ => ticks_handle) (announces_handler engine) s events hp
  have hlog : ∀ entry ∈ (run engine queries s events).log,
      entry.1 < (run engine queries s events).tasks.length := by
    have hall : EventLoop.Each (fun _ _ _ => True) (run engine queries s events) :=
      (EventLoop.Each.idle s).foldl (fun _ _ _ => trivial) (fun _ _ _ _ _ _ => trivial) events
    exact hall.log_lt
  constructor
  case each => exact heach
  case rest =>
    intro hrest
    have hperm := EventLoop.perm_history hlog
    refine (hperm.filterMap announced).trans (List.Perm.trans ?_ (hperm.filterMap owed).symm)
    rw [List.filterMap_flatMap, List.filterMap_flatMap]
    refine List.Perm.of_eq (List.flatMap_congr fun i hi => ?_)
    have hi' : i < (run engine queries s events).tasks.length := List.mem_range.mp hi
    exact (heach i _ _ (List.getElem?_eq_getElem hi')).settled (hrest _ (List.getElem_mem hi'))
  case events =>
    have hkept : (run engine queries s events).Kept (fun _ => True) (fun _ _ => True)
        fun t log => t.events = s.events ++ (log.map Prod.snd).filterMap published := by
      refine EventLoop.Kept.foldl (fun a => meets_of_forall (fun _ => trivial) (fun _ => trivial) _)
        (fun a i c op t log _ ht => ?_) ⟨by simp [EventLoop.idle], by simp [EventLoop.idle]⟩ events
      rw [events_handle, ht, List.map_append, List.filterMap_append, List.append_assoc]
      rfl
    exact hkept.kept

end CatalogServer

end Ecommerce
