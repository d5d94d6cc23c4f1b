import Ecommerce.Gateway.Exchange
import Ecommerce.Lib.Triple

namespace Ecommerce

open CatalogClient

namespace Mutation

def queue : Mutation → CatalogQueue
  | createProduct _ => .productCreate
  | updateProduct _ _ => .productUpdate
  | deleteProduct _ => .productDelete
  | createCategory _ => .categoryCreate
  | updateCategory _ _ => .categoryUpdate
  | deleteCategory _ => .categoryDelete

def payload : Mutation → Json
  | createProduct data => data
  | updateProduct productId data => .obj (("productId", .str productId) :: data)
  | deleteProduct productId => .obj [("productId", .str productId)]
  | createCategory data => data
  | updateCategory categoryId data => .obj (("categoryId", .str categoryId) :: data)
  | deleteCategory categoryId => .obj [("categoryId", .str categoryId)]

def check : Mutation → Json → GatewayM (Option Json)
  | createProduct _ => dataOf "Failed to create product"
  | updateProduct _ _ => dataOf "Failed to update product"
  | deleteProduct _ => fun response => pure (some response)
  | createCategory _ => dataOf "Failed to create category"
  | updateCategory _ _ => dataOf "Failed to update category"
  | deleteCategory _ => dataOf "Failed to delete category"

/-- The `catch` block. -/
def caught : Mutation → Error → GatewayM (Option Json)
  | createProduct _, error | createCategory _, error =>
    throw (if error.message = "RPC timeout" then .plain "Product service unavailable" else error)
  | updateProduct _ _, _ | deleteProduct _, _ | updateCategory _ _, _ | deleteCategory _, _ =>
    throw (.plain "Product service unavailable")

theorem program_eq_tryCatch (m : Mutation) :
    m.program = Prog.tryCatch (rpc m.queue m.payload >>= m.check) m.caught := by
  cases m <;> rfl

def finish (m : Mutation) (r : Except Error Json) : GatewayM (Option Json) :=
  Prog.tryCatch (Prog.settle r >>= m.check) m.caught

def retry (m : Mutation) : GatewayM (Option Json) :=
  .await (.rpcCall m.queue m.payload 10000) m.finish

def pause (m : Mutation) : GatewayM (Option Json) :=
  .await (.delay 1000) fun r => match r with
    | .ok _ => m.retry
    | .error e => m.finish (.error e)

theorem program_eq (m : Mutation) :
    m.program = .await (.rpcCall m.queue m.payload 10000) fun r => match r with
      | .ok response => m.finish (.ok response)
      | .error _ => m.pause := by
  rw [program_eq_tryCatch]
  refine congrArg (Prog.await _) (funext fun r => ?_)
  cases r with
  | ok response => rfl
  | error e =>
    refine congrArg (Prog.await _) (funext fun d => ?_)
    cases d <;> rfl

theorem settled_of_awaits {α : Type} {p : GatewayM α} (hp : Prog.Awaits (fun _ => False) p) :
    p.settlement.isSome := by
  cases p with
  | pure a => rfl
  | throw e => rfl
  | await op k => exact hp.1.elim

theorem awaits_dataOf (fallback : String) (response : Json) :
    Prog.Awaits (fun _ => False) (dataOf fallback response) := by
  refine .bind (Prog.awaits_settle _) fun success => ?_
  split
  · exact Prog.awaits_settle _
  · exact .bind (Prog.awaits_settle _) fun _ =>
      .bind (.bind (Prog.awaits_settle _) fun _ => trivial) fun _ => trivial

theorem settled_finish (m : Mutation) (r : Except Error Json) :
    (m.finish r).settlement.isSome := by
  refine settled_of_awaits (.tryCatch (.bind (Prog.awaits_settle _) fun response => ?_) fun e => ?_)
  · cases m with
    | deleteProduct productId => trivial
    | _ => exact awaits_dataOf _ _
  · cases m <;> trivial

def errorText : Mutation → Option String → Option String
  | createProduct _, message | createCategory _, message => orUnknown message
  | updateProduct _ _, message | deleteProduct _, message | updateCategory _ _, message
  | deleteCategory _, message => message

def silent (m : Mutation) : MutationOutcome → Bool
  | .done _ => false
  | .refused message => (m.errorText message).getD "" = ""

/-- Every call but one looks at `response.success`. -/
def checks : Mutation → Bool
  | deleteProduct _ => false
  | _ => true

theorem answer_failureReply (error : Option String) :
    Exchange.answer (failureReply error) =
      if error.getD "" = "" then .ok (failureReply error)
      else .error (.plain (error.getD "")) := by
  cases error with
  | none => rfl
  | some message =>
    by_cases hempty : message = ""
    · subst hempty
      rfl
    · have htruthy : (Json.str message).truthy = true := by simp [Json.truthy, hempty]
      have hanswer : Exchange.answer (failureReply (some message)) =
          if (Json.str message).truthy then .error (.plain (String.ofList message.toList))
          else .ok (failureReply (some message)) := rfl
      rw [hanswer, if_pos htruthy]
      simp [hempty]

theorem reply_refused (m : Mutation) (message : Option String) :
    m.reply (.refused message) = failureReply (m.errorText message) := by
  cases m <;> rfl

theorem silent_refused (m : Mutation) (message : Option String) :
    m.silent (.refused message) = decide ((m.errorText message).getD "" = "") := rfl

theorem answer_done (m : Mutation) (data : Json) :
    Exchange.answer (m.reply (.done data)) = .ok (m.reply (.done data)) := by
  cases m <;> rfl

theorem answer_reply (m : Mutation) (outcome : MutationOutcome) :
    (∃ e, Exchange.answer (m.reply outcome) = .error e) ↔
      outcome.applied = false ∧ m.silent outcome = false := by
  cases outcome with
  | done data => simp [answer_done, MutationOutcome.applied]
  | refused message =>
    rw [reply_refused, answer_failureReply, silent_refused]
    by_cases hempty : (m.errorText message).getD "" = "" <;>
      simp [hempty, MutationOutcome.applied]

theorem resolved_finish_error (m : Mutation) (e : Error) : (m.finish (.error e)).resolved = false := by
  cases m <;> rfl

theorem resolved_finish (m : Mutation) (outcome : MutationOutcome) :
    (m.finish (Exchange.answer (m.reply outcome))).resolved =
      (outcome.applied || m.silent outcome && !m.checks) := by
  cases outcome with
  | done data =>
    rw [answer_done]
    cases m <;> rfl
  | refused message =>
    rw [reply_refused, answer_failureReply, silent_refused]
    by_cases hempty : (m.errorText message).getD "" = ""
    · rw [if_pos hempty]
      have hreply : m.errorText message = none ∨ m.errorText message = some "" := by
        cases htext : m.errorText message with
        | none => exact .inl rfl
        | some text =>
          rw [htext] at hempty
          exact .inr (congrArg some hempty)
      rcases hreply with htext | htext <;> rw [htext] <;> cases m <;> rfl
    · rw [if_neg hempty, resolved_finish_error]
      simp [hempty, MutationOutcome.applied]

end Mutation

namespace Exchange

/-- A request is in the queue or has been handled, once; a reply is that of its request's handler. -/
structure Delivery (m : Mutation) (w : Exchange) : Prop where
  nodup : (w.requests ++ w.handled.map Prod.fst).Nodup
  lt : ∀ k ∈ w.requests ++ w.handled.map Prod.fst, k < w.sent
  replies : ∀ k response, (k, response) ∈ w.replies →
    ∃ outcome, (k, outcome) ∈ w.handled ∧ response = m.reply outcome

def Settled (m : Mutation) (w : Exchange) (k : Nat) (r : Except Error Json) : Prop :=
  r = .error (.plain "RPC timeout") ∧ k ∉ w.heard ∨
    ∃ outcome, (k, outcome) ∈ w.handled ∧ k ∈ w.heard ∧ r = answer (m.reply outcome)

inductive Stage (m : Mutation) (w : Exchange) : Prop
  | calling (program : w.program = m.program) (sent : w.sent = 0) (pending : w.pending = none)
    (heard : w.heard = [])
  | first (program : w.program = m.program) (sent : w.sent = 1) (pending : w.pending = some 0)
    (heard : w.heard = [])
  | accepted {response : Json} (settled : Settled m w 0 (.ok response))
    (program : w.program = m.finish (.ok response)) (sent : w.sent = 1) (pending : w.pending = none)
  | pausing {e : Error} (settled : Settled m w 0 (.error e)) (program : w.program = m.pause)
    (sent : w.sent = 1) (pending : w.pending = none) (heard : 1 ∉ w.heard)
  | retrying {e : Error} (settled : Settled m w 0 (.error e)) (program : w.program = m.retry)
    (sent : w.sent = 1) (pending : w.pending = none) (heard : 1 ∉ w.heard)
  | second {e : Error} (settled : Settled m w 0 (.error e)) (program : w.program = m.retry)
    (sent : w.sent = 2) (pending : w.pending = some 1) (heard : 1 ∉ w.heard)
  | closed {e : Error} {r : Except Error Json} (settled : Settled m w 0 (.error e))
    (settled' : Settled m w 1 r) (program : w.program = m.finish r) (sent : w.sent = 2)
    (pending : w.pending = none)

section Steps

variable {m : Mutation} {w w' : Exchange} {k : Nat} {r : Except Error Json}

theorem Settled.mono (h : Settled m w k r) (hhandled : w.handled ⊆ w'.handled)
    (hheard : k ∈ w'.heard ↔ k ∈ w.heard) : Settled m w' k r := by
  rcases h with ⟨rfl, hk⟩ | ⟨outcome, hmem, hk, rfl⟩
  · exact .inl ⟨rfl, fun h => hk (hheard.mp h)⟩
  · exact .inr ⟨outcome, hhandled hmem, hheard.mpr hk, rfl⟩

theorem Stage.mono (h : Stage m w) (hprogram : w'.program = w.program) (hsent : w'.sent = w.sent)
    (hpending : w'.pending = w.pending) (hheard : w'.heard = w.heard)
    (hhandled : w.handled ⊆ w'.handled) : Stage m w' := by
  have hsettled : ∀ {k r}, Settled m w k r → Settled m w' k r := fun hk =>
    hk.mono hhandled (hheard ▸ Iff.rfl)
  cases h with
  | calling hp hs hn hh =>
    exact .calling (hprogram.trans hp) (hsent.trans hs) (hpending.trans hn) (hheard.trans hh)
  | first hp hs hn hh =>
    exact .first (hprogram.trans hp) (hsent.trans hs) (hpending.trans hn) (hheard.trans hh)
  | accepted h₀ hp hs hn =>
    exact .accepted (hsettled h₀) (hprogram.trans hp) (hsent.trans hs) (hpending.trans hn)
  | pausing h₀ hp hs hn hh =>
    exact .pausing (hsettled h₀) (hprogram.trans hp) (hsent.trans hs) (hpending.trans hn)
      (hheard ▸ hh)
  | retrying h₀ hp hs hn hh =>
    exact .retrying (hsettled h₀) (hprogram.trans hp) (hsent.trans hs) (hpending.trans hn)
      (hheard ▸ hh)
  | second h₀ hp hs hn hh =>
    exact .second (hsettled h₀) (hprogram.trans hp) (hsent.trans hs) (hpending.trans hn)
      (hheard ▸ hh)
  | closed h₀ h₁ hp hs hn =>
    exact .closed (hsettled h₀) (hsettled h₁) (hprogram.trans hp) (hsent.trans hs)
      (hpending.trans hn)

theorem rpcCall_eq {queue : CatalogQueue} {payload : Json} {timeout : Nat}
    {k : Except Error Json → GatewayM (Option Json)} (hpending : w.pending = none)
    (hprogram : w.program = .await (.rpcCall queue payload timeout) k) :
    w.rpcCall =
      { w with sent := w.sent + 1, pending := some w.sent, requests := w.requests ++ [w.sent] } := by
  unfold Exchange.rpcCall
  rw [hpending, hprogram]

theorem rpcCall_pending (hpending : w.pending = some k) : w.rpcCall = w := by
  unfold Exchange.rpcCall
  rw [hpending]

theorem rpcCall_settled (hprogram : w.program.settlement.isSome) : w.rpcCall = w := by
  unfold Exchange.rpcCall
  split
  · next hp =>
    rw [hp] at hprogram
    cases hprogram
  · rfl

theorem delay_settled (hprogram : w.program.settlement.isSome) : w.delay = w := by
  unfold Exchange.delay
  split
  · next hp =>
    rw [hp] at hprogram
    cases hprogram
  · rfl

theorem delay_rpcCall {queue : CatalogQueue} {payload : Json} {timeout : Nat}
    {k : Except Error Json → GatewayM (Option Json)}
    (hprogram : w.program = .await (.rpcCall queue payload timeout) k) : w.delay = w := by
  unfold Exchange.delay
  rw [hprogram]

theorem Stage.rpcCall (h : Stage m w) : Stage m w.rpcCall := by
  cases h with
  | calling hp hs hn hh =>
    rw [rpcCall_eq hn (hp.trans m.program_eq)]
    exact .first hp (congrArg (· + 1) hs) (congrArg some hs) hh
  | first hp hs hn hh =>
    rw [rpcCall_pending hn]
    exact .first hp hs hn hh
  | accepted h₀ hp hs hn =>
    rw [rpcCall_settled (hp ▸ m.settled_finish _)]
    exact .accepted h₀ hp hs hn
  | pausing h₀ hp hs hn hh =>
    have hidle : w.rpcCall = w := by
      unfold Exchange.rpcCall
      rw [hn, hp]
      rfl
    rw [hidle]
    exact .pausing h₀ hp hs hn hh
  | retrying h₀ hp hs hn hh =>
    rw [rpcCall_eq hn hp]
    exact .second (h₀.mono (List.Subset.refl _) Iff.rfl) hp (congrArg (· + 1) hs)
      (congrArg some hs) hh
  | second h₀ hp hs hn hh =>
    rw [rpcCall_pending hn]
    exact .second h₀ hp hs hn hh
  | closed h₀ h₁ hp hs hn =>
    rw [rpcCall_settled (hp ▸ m.settled_finish _)]
    exact .closed h₀ h₁ hp hs hn

theorem Stage.delay (h : Stage m w) : Stage m w.delay := by
  cases h with
  | calling hp hs hn hh =>
    rw [delay_rpcCall (hp.trans m.program_eq)]
    exact .calling hp hs hn hh
  | first hp hs hn hh =>
    rw [delay_rpcCall (hp.trans m.program_eq)]
    exact .first hp hs hn hh
  | accepted h₀ hp hs hn =>
    rw [delay_settled (hp ▸ m.settled_finish _)]
    exact .accepted h₀ hp hs hn
  | pausing h₀ hp hs hn hh =>
    have hawake : w.delay = { w with program := m.retry } := by
      unfold Exchange.delay
      rw [hp]
      rfl
    rw [hawake]
    exact .retrying (h₀.mono (List.Subset.refl _) Iff.rfl) rfl hs hn hh
  | retrying h₀ hp hs hn hh =>
    rw [delay_rpcCall hp]
    exact .retrying h₀ hp hs hn hh
  | second h₀ hp hs hn hh =>
    rw [delay_rpcCall hp]
    exact .second h₀ hp hs hn hh
  | closed h₀ h₁ hp hs hn =>
    rw [delay_settled (hp ▸ m.settled_finish _)]
    exact .closed h₀ h₁ hp hs hn

theorem Stage.settle (h : Stage m w) (hk : w.pending = some k) (hprogram : w'.program = w.program)
    (hsent : w'.sent = w.sent) (hhandled : w'.handled = w.handled)
    (hheard : ∀ l, l ≠ k → (l ∈ w'.heard ↔ l ∈ w.heard)) (hsettled : Settled m w' k r) :
    Stage m (w'.settle r) := by
  cases h with
  | first hp hs hn hh =>
    obtain rfl : k = 0 := Option.some.inj (hk.symm.trans hn)
    have hsettled : Settled m (w'.settle r) 0 r := hsettled.mono (List.Subset.refl _) Iff.rfl
    have hresumed : (w'.settle r).program = resume r m.program := by
      rw [← hp, ← hprogram]
      rfl
    rw [m.program_eq] at hresumed
    cases r with
    | ok response => exact .accepted hsettled hresumed (hsent.trans hs) rfl
    | error e =>
      refine .pausing hsettled hresumed (hsent.trans hs) rfl fun h => ?_
      rw [show (w'.settle (.error e)).heard = w'.heard from rfl, hheard 1 (by decide), hh] at h
      cases h
  | second h₀ hp hs hn hh =>
    obtain rfl : k = 1 := Option.some.inj (hk.symm.trans hn)
    refine .closed (h₀.mono (fun x hx => hhandled ▸ hx) (hheard 0 (by decide)))
      (hsettled.mono (List.Subset.refl _) Iff.rfl) ?_ (hsent.trans hs) rfl
    simp only [Exchange.settle, hprogram, hp]
    rfl
  | calling hp hs hn hh => cases hk.symm.trans hn
  | accepted h₀ hp hs hn => cases hk.symm.trans hn
  | pausing h₀ hp hs hn hh => cases hk.symm.trans hn
  | retrying h₀ hp hs hn hh => cases hk.symm.trans hn
  | closed h₀ h₁ hp hs hn => cases hk.symm.trans hn

theorem Stage.not_heard (h : Stage m w) (hk : w.pending = some k) : k ∉ w.heard := by
  cases h with
  | first hp hs hn hh =>
    rw [hh]
    exact List.not_mem_nil
  | second h₀ hp hs hn hh =>
    obtain rfl : k = 1 := Option.some.inj (hk.symm.trans hn)
    exact hh
  | calling hp hs hn hh => cases hk.symm.trans hn
  | accepted h₀ hp hs hn => cases hk.symm.trans hn
  | pausing h₀ hp hs hn hh => cases hk.symm.trans hn
  | retrying h₀ hp hs hn hh => cases hk.symm.trans hn
  | closed h₀ h₁ hp hs hn => cases hk.symm.trans hn

end Steps

structure Sound (m : Mutation) (w : Exchange) : Prop where
  delivery : Delivery m w
  stage : Stage m w

section Runs

variable {m : Mutation} {w : Exchange}

theorem sound_start (m : Mutation) : Sound m (start m) where
  delivery :=
    { nodup := List.nodup_nil
      lt := fun _ hk => absurd hk List.not_mem_nil
      replies := fun _ _ h => absurd h List.not_mem_nil }
  stage := .calling rfl rfl rfl rfl

theorem Delivery.rpcCall (h : Delivery m w) : Delivery m w.rpcCall := by
  unfold Exchange.rpcCall
  split
  · have hperm : (w.requests ++ [w.sent] ++ w.handled.map Prod.fst).Perm
        (w.sent :: (w.requests ++ w.handled.map Prod.fst)) := by
      rw [List.append_assoc]
      exact List.perm_middle
    refine ⟨hperm.nodup_iff.mpr (List.nodup_cons.mpr ⟨?_, h.nodup⟩), fun k hk => ?_, h.replies⟩
    · exact fun hmem => lt_irrefl _ (h.lt _ hmem)
    · rcases List.mem_cons.mp (hperm.mem_iff.mp hk) with rfl | hk
      · exact Nat.lt_succ_self _
      · exact Nat.lt_succ_of_lt (h.lt k hk)
  · exact h

theorem Delivery.delay (h : Delivery m w) : Delivery m w.delay := by
  unfold Exchange.delay
  split
  · exact ⟨h.nodup, h.lt, h.replies⟩
  · exact h

theorem Delivery.handle (h : Delivery m w) (i : Nat) (outcome : MutationOutcome) :
    Delivery m (w.handle m i outcome) := by
  unfold Exchange.handle
  split
  · exact h
  next k hk =>
    obtain ⟨hlt, rfl⟩ := List.getElem?_eq_some_iff.mp hk
    have hperm : (w.requests.eraseIdx i ++
        (w.handled ++ [(w.requests[i], outcome)]).map Prod.fst).Perm
          (w.requests ++ w.handled.map Prod.fst) := by
      rw [List.map_append, ← List.append_assoc]
      apply (List.perm_append_singleton _ _).trans
      exact (List.getElem_cons_eraseIdx_perm hlt).append_right _
    refine ⟨hperm.nodup_iff.mpr h.nodup, fun k hk => h.lt k (hperm.mem_iff.mp hk), ?_⟩
    intro k response hmem
    rcases List.mem_append.mp hmem with hmem | hmem
    · obtain ⟨outcome', houtcome, hresponse⟩ := h.replies k response hmem
      exact ⟨outcome', List.mem_append_left _ houtcome, hresponse⟩
    · obtain ⟨rfl, rfl⟩ := Prod.mk.inj (List.mem_singleton.mp hmem)
      exact ⟨outcome, List.mem_append_right _ (List.mem_singleton_self _), rfl⟩

theorem Delivery.lose (h : Delivery m w) {requests : List Nat} {replies : List (Nat × Json)}
    (hrequests : requests.Sublist w.requests) (hreplies : replies ⊆ w.replies)
    {w' : Exchange} (hw' : w'.requests = requests ∧ w'.replies = replies ∧ w'.sent = w.sent ∧
      w'.handled = w.handled) : Delivery m w' := by
  obtain ⟨rfl, rfl, hsent, hhandled⟩ := hw'
  have hsub := hrequests.append_right (w.handled.map Prod.fst)
  refine ⟨hhandled ▸ h.nodup.sublist hsub, fun k hk => ?_, fun k response hmem => ?_⟩
  · rw [hsent]
    exact h.lt k (hsub.subset (hhandled ▸ hk))
  · rw [hhandled]
    exact h.replies k response (hreplies hmem)

theorem Sound.timer (h : Sound m w) : Sound m w.timer := by
  unfold Exchange.timer
  split
  · exact h
  next k hk =>
    exact
      { delivery := h.delivery.lose (.refl _) (List.Subset.refl _) ⟨rfl, rfl, rfl, rfl⟩
        stage := h.stage.settle hk rfl rfl rfl (fun _ _ => Iff.rfl)
          (.inl ⟨rfl, h.stage.not_heard hk⟩) }

theorem Sound.reply (h : Sound m w) (i : Nat) : Sound m (w.handleRPCResponse i) := by
  unfold Exchange.handleRPCResponse
  split
  · exact h
  next k response hreply =>
    have hsub := (List.eraseIdx_sublist w.replies i).subset
    split
    next hk =>
      obtain ⟨outcome, houtcome, rfl⟩ := h.delivery.replies k response (List.mem_of_getElem? hreply)
      refine ⟨h.delivery.lose (.refl _) hsub ⟨rfl, rfl, rfl, rfl⟩, ?_⟩
      refine h.stage.settle hk rfl rfl rfl (fun l hl => ?_) (.inr ⟨outcome, houtcome, ?_, rfl⟩)
      · simp [hl]
      · exact List.mem_cons_self
    next =>
      exact
        { delivery := h.delivery.lose (.refl _) hsub ⟨rfl, rfl, rfl, rfl⟩
          stage := h.stage.mono rfl rfl rfl rfl (List.Subset.refl _) }

theorem Sound.step (h : Sound m w) (event : ExchangeEvent) : Sound m (w.step m event) := by
  cases event with
  | rpcCall => exact ⟨h.delivery.rpcCall, h.stage.rpcCall⟩
  | delay => exact ⟨h.delivery.delay, h.stage.delay⟩
  | handle i outcome =>
    refine ⟨h.delivery.handle i outcome, h.stage.mono ?_ ?_ ?_ ?_ ?_⟩ <;>
      simp only [Exchange.step, Exchange.handle] <;> split <;> simp
  | loseRequest i =>
    exact
      { delivery := h.delivery.lose (List.eraseIdx_sublist _ i) (List.Subset.refl _)
          ⟨rfl, rfl, rfl, rfl⟩
        stage := h.stage.mono rfl rfl rfl rfl (List.Subset.refl _) }
  | reply i => exact h.reply i
  | loseReply i =>
    exact
      { delivery := h.delivery.lose (.refl _) (List.eraseIdx_sublist _ i).subset
          ⟨rfl, rfl, rfl, rfl⟩
        stage := h.stage.mono rfl rfl rfl rfl (List.Subset.refl _) }
  | timer => exact h.timer

theorem sound_run (m : Mutation) (events : List ExchangeEvent) : Sound m (run m events) := by
  have hrun : ∀ w, Sound m w → Sound m (events.foldl (Exchange.step m) w) := by
    intro w hw
    induction events generalizing w with
    | nil => exact hw
    | cons event events ih => exact ih _ (hw.step event)
  exact hrun _ (sound_start m)

end Runs

section Rest

variable {m : Mutation} {w : Exchange} {k : Nat} {outcome : MutationOutcome}

/-- The first reply comes in time and is not retried or misread; or the first request is never
handled, and what becomes of the second is what the call reports. -/
def Clean (m : Mutation) (w : Exchange) : Prop :=
  (∃ outcome, (0, outcome) ∈ w.handled ∧ 0 ∈ w.heard ∧
      (outcome.applied ∨ m.silent outcome ∧ m.checks)) ∨
    (∀ outcome, (0, outcome) ∉ w.handled) ∧
      ∀ outcome, (1, outcome) ∈ w.handled →
        if 1 ∈ w.heard then m.silent outcome → m.checks else outcome.applied = false

theorem Delivery.unique (h : Delivery m w) {outcome' : MutationOutcome}
    (hmem : (k, outcome) ∈ w.handled) (hmem' : (k, outcome') ∈ w.handled) : outcome = outcome' := by
  have hnodup := (List.nodup_append.mp h.nodup).2.1
  exact (Prod.mk.inj (List.inj_on_of_nodup_map hnodup hmem hmem' rfl)).2

theorem Delivery.handled_eq (h : Delivery m w) (hk : ∀ x ∈ w.handled, x.1 = k)
    (hmem : (k, outcome) ∈ w.handled) : w.handled = [(k, outcome)] := by
  have hnodup := (List.nodup_append.mp h.nodup).2.1
  match hlist : w.handled with
  | [] =>
    rw [hlist] at hmem
    cases hmem
  | [x] =>
    rw [hlist] at hmem
    rw [List.mem_singleton.mp hmem]
  | x :: y :: rest =>
    rw [hlist] at hnodup hk
    have hxy : x.1 = y.1 := (hk x (by simp)).trans (hk y (by simp)).symm
    simp [hxy] at hnodup

theorem applied_singleton (hhandled : w.handled = [(k, outcome)]) :
    w.applied = if outcome.applied then 1 else 0 := by
  simp [Exchange.applied, hhandled, List.countP_cons]

/-- One request has been handled, and no second one sent after it: only the report can be wrong. -/
theorem truthful_singleton (hhandled : w.handled = [(k, outcome)])
    (hresent : 1 < w.sent → ∀ outcome, (0, outcome) ∉ w.handled) :
    w.Truthful ↔ (w.program.resolved ↔ 0 < w.applied) := by
  refine ⟨fun h => h.reported, fun hreported => ⟨hresent, ?_, hreported⟩⟩
  rw [applied_singleton hhandled]
  split <;> simp

theorem silent_of_applied (m : Mutation) (h : outcome.applied = true) :
    m.silent outcome = false := by
  cases outcome with
  | done data => rfl
  | refused message => cases h

theorem truthful_accepted {response : Json} (h : Delivery m w)
    (hsettled : Settled m w 0 (.ok response)) (hprogram : w.program = m.finish (.ok response))
    (hsent : w.sent = 1) :
    w.Truthful ↔ Clean m w := by
  rcases hsettled with ⟨htimeout, -⟩ | ⟨outcome, hmem, hheard, hanswer⟩
  · cases htimeout
  have hhandled : w.handled = [(0, outcome)] := by
    refine h.handled_eq (fun x hx => ?_) hmem
    have hlt := h.lt x.1 (List.mem_append_right _ (List.mem_map_of_mem hx))
    rw [hsent] at hlt
    exact Nat.lt_one_iff.mp hlt
  have hresolved : w.program.resolved = (outcome.applied || m.silent outcome && !m.checks) := by
    rw [hprogram, hanswer, m.resolved_finish]
  have hfinal : outcome.applied = true ∨ m.silent outcome = true := by
    by_contra hnot
    simp only [not_or, Bool.not_eq_true] at hnot
    obtain ⟨e, he⟩ := (m.answer_reply outcome).mpr hnot
    rw [he] at hanswer
    cases hanswer
  have hclean : Clean m w ↔ outcome.applied ∨ m.silent outcome ∧ m.checks := by
    simp [Clean, hhandled, hheard]
  have hresent : ¬ 1 < w.sent := hsent.le.not_gt
  rw [truthful_singleton hhandled fun hlt => absurd hlt hresent, hclean, hresolved,
    applied_singleton hhandled]
  rcases hfinal with hdone | hsilent
  · simp [hdone]
  · cases hdone : outcome.applied <;> cases hchecks : m.checks <;> simp [hsilent]

theorem not_clean_of_resent {e : Error} (h : Delivery m w) (hsettled : Settled m w 0 (.error e))
    (hmem : (0, outcome) ∈ w.handled) : ¬ Clean m w := by
  rintro (⟨outcome', hmem', hheard, hfinal⟩ | ⟨hnone, -⟩)
  · obtain rfl := h.unique hmem hmem'
    rcases hsettled with ⟨-, hunheard⟩ | ⟨outcome', hmem', -, hanswer⟩
    · exact hunheard hheard
    · obtain rfl := h.unique hmem hmem'
      obtain ⟨hdone, hsilent⟩ := (m.answer_reply outcome).mp ⟨e, hanswer.symm⟩
      rcases hfinal with hfinal | ⟨hfinal, -⟩
      · exact absurd hfinal (by simp [hdone])
      · exact absurd hfinal (by simp [hsilent])
  · exact hnone outcome hmem

theorem truthful_closed {e : Error} {r : Except Error Json} (h : Delivery m w)
    (hsettled : Settled m w 0 (.error e)) (hsettled' : Settled m w 1 r)
    (hprogram : w.program = m.finish r) (hsent : w.sent = 2) : w.Truthful ↔ Clean m w := by
  by_cases hfirst : ∃ outcome, (0, outcome) ∈ w.handled
  · obtain ⟨outcome, hmem⟩ := hfirst
    refine iff_of_false (fun htruthful => ?_) (not_clean_of_resent h hsettled hmem)
    exact htruthful.resent (by rw [hsent]; decide) outcome hmem
  have hnone : ∀ outcome, (0, outcome) ∉ w.handled := not_exists.mp hfirst
  have hkeys : ∀ x ∈ w.handled, x.1 = 1 := by
    intro x hx
    have hlt := h.lt x.1 (List.mem_append_right _ (List.mem_map_of_mem hx))
    have hne : x.1 ≠ 0 := fun hzero => hnone x.2 (hzero ▸ hx)
    omega
  have hclean : Clean m w ↔ ∀ outcome, (1, outcome) ∈ w.handled →
      if 1 ∈ w.heard then m.silent outcome → m.checks else outcome.applied = false := by
    simp [Clean, hnone]
  by_cases hsecond : ∃ outcome, (1, outcome) ∈ w.handled
  · obtain ⟨outcome, hmem⟩ := hsecond
    have hhandled := h.handled_eq hkeys hmem
    rw [truthful_singleton hhandled fun _ => hnone, hclean, hprogram, applied_singleton hhandled]
    rcases hsettled' with ⟨rfl, hunheard⟩ | ⟨outcome', hmem', hheard, rfl⟩
    · rw [m.resolved_finish_error]
      cases hdone : outcome.applied <;> simp [hhandled, hunheard, hdone]
    · obtain rfl := h.unique hmem hmem'
      rw [m.resolved_finish]
      cases hdone : outcome.applied with
      | true => simp [hhandled, hheard, silent_of_applied m hdone]
      | false => cases hsilent : m.silent outcome <;> simp [hhandled, hheard, hsilent]
  · have hnil : w.handled = [] := by
      refine List.eq_nil_iff_forall_not_mem.mpr fun x hx => hsecond ⟨x.2, ?_⟩
      exact hkeys x hx ▸ hx
    refine iff_of_true ?_ (hclean.mpr fun outcome hmem => absurd ⟨outcome, hmem⟩ hsecond)
    have happlied : w.applied = 0 := by simp [Exchange.applied, hnil]
    refine ⟨fun _ => hnone, happlied.le.trans (Nat.zero_le 1), ?_⟩
    rcases hsettled' with ⟨rfl, -⟩ | ⟨outcome, hmem, -⟩
    · rw [hprogram, m.resolved_finish_error, happlied]
      simp
    · exact absurd ⟨outcome, hmem⟩ hsecond

end Rest

end Exchange

/-- When a mutating call has settled and no message is in flight any more: there was a second request
only if the first was not handled, the mutation was applied at most once, and the call resolved if
and only if it was, exactly when the exchange was clean. -/
theorem truthful_iff (m : Mutation) {events : List ExchangeEvent}
    (hrest : (Exchange.run m events).AtRest) :
    (Exchange.run m events).Truthful ↔ Exchange.Clean m (Exchange.run m events) := by
  obtain ⟨hdelivery, hstage⟩ := Exchange.sound_run m events
  have hsettled := hrest.settled
  cases hstage with
  | accepted h₀ hp hs hn => exact Exchange.truthful_accepted hdelivery h₀ hp hs
  | closed h₀ h₁ hp hs hn => exact Exchange.truthful_closed hdelivery h₀ h₁ hp hs
  | calling hp hs hn hh | first hp hs hn hh =>
    rw [hp, m.program_eq] at hsettled
    cases hsettled
  | pausing h₀ hp hs hn hh | retrying h₀ hp hs hn hh | second h₀ hp hs hn hh =>
    rw [hp] at hsettled
    cases hsettled

section Example

private def removal : Mutation := .deleteProduct "p"

/-- The request gets lost, and the second one is answered in time. -/
private def repeatedRemoval : List ExchangeEvent :=
  [.rpcCall, .loseRequest 0, .timer, .delay, .rpcCall, .handle 0 (.done .null), .reply 0]

theorem truthful_iff_repeatedRemoval : (Exchange.run removal repeatedRemoval).Truthful ↔
    Exchange.Clean removal (Exchange.run removal repeatedRemoval) :=
  truthful_iff removal ⟨rfl, rfl, rfl⟩

/-- The timer fires before the request is handled, and the second request finds nothing to delete. -/
private def overtakenRemoval : List ExchangeEvent :=
  [.rpcCall, .timer, .handle 0 (.done .null), .delay, .rpcCall,
    .handle 0 (.refused (some "Product not found")), .reply 1, .loseReply 0]

private def insertion : Mutation := .createProduct (.obj [("sku", .str "s")])

/-- Both requests are refused, and both replies come in time. -/
private def refusedTwice : List ExchangeEvent :=
  [.rpcCall, .handle 0 (.refused (some "Unique constraint failed")), .reply 0, .delay, .rpcCall,
    .handle 0 (.refused (some "Unique constraint failed")), .reply 0]

private def change : Mutation := .updateProduct "p" [("name", .str "n")]

/-- The first reply is late. -/
private def appliedTwice : List ExchangeEvent :=
  [.rpcCall, .handle 0 (.done .null), .timer, .delay, .rpcCall, .reply 0, .handle 0 (.done .null),
    .reply 0]

/-- A refused creation is sent again; a deletion that took place is reported as a failure; an update
is applied twice. -/
theorem not_truthful_retried :
    ((Exchange.run insertion refusedTwice).AtRest ∧
      (Exchange.run insertion refusedTwice).sent = 2 ∧
      ∃ outcome, (0, outcome) ∈ (Exchange.run insertion refusedTwice).handled) ∧
    ((Exchange.run removal overtakenRemoval).AtRest ∧
      (Exchange.run removal overtakenRemoval).applied = 1 ∧
      (Exchange.run removal overtakenRemoval).program.resolved = false) ∧
    ((Exchange.run change appliedTwice).AtRest ∧
      (Exchange.run change appliedTwice).applied = 2) :=
  ⟨⟨⟨rfl, rfl, rfl⟩, rfl, _, List.mem_cons_self⟩, ⟨⟨rfl, rfl, rfl⟩, rfl, rfl⟩,
    ⟨rfl, rfl, rfl⟩, rfl⟩

end Example

end Ecommerce
