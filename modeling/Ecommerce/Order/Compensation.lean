import Ecommerce.Order.Effect

namespace Ecommerce

/-- The stock is what it was, and no order that the call has stored can be cancelled. -/
structure Compensated (w w' : World) : Prop where
  stock : w'.inventory = w.inventory
  closed : ∀ order ∈ w'.orders.rows, w.orders.find? order.id = none →
    order.status ∉ [.pending, .confirmed]

/-- A rejected `create` is undone exactly when it failed to store its order. -/
theorem compensated_iff {env : Script Turn} {data : CreateOrderData} {w : World} {e : Error}
    (hrpc : ∀ n, (env n).rpc = .answered fun _ => .accept)
    (hreserve : InventoryService.grants w.inventory data.items)
    (hreject : (Prog.play World.handle env (OrderService.create data) w).1 = .error e) :
    Compensated w (Prog.play World.handle env (OrderService.create data) w).2 ↔
      (∃ m, (env 1).db = .reject m) ∨ w.orders.find? (env 1).newId ≠ none := by
  have hcreates := creates env w data
  generalize Prog.play World.handle env (OrderService.create data) w = result at hcreates hreject
  cases hcreates with
  | refused hreply =>
    rw [World.reply_reserve (hrpc 0), hreserve] at hreply
    simp at hreply
  | notInserted hreply hinsert =>
    refine iff_of_true ⟨?_, ?_⟩ hinsert
    · have hstocked := InventoryService.stocked_of_grants hreserve
      rw [World.inventory_release (hrpc 2) ((World.stocked_request ..).mpr hstocked),
        World.inventory_reserve (hrpc 0), if_pos hreserve, Stock.shift_shift]
      simp
    · intro order horder hnew
      rw [World.request_orders, World.request_orders] at horder
      rw [Table.find?_of_mem horder] at hnew
      cases hnew
  | failed hreply hdb hinsert hsettle =>
    have hnone := Table.find?_of_insert hinsert
    refine iff_of_false (fun hcompensated => ?_) ?_
    · obtain ⟨order, hfind, hpending⟩ := hsettle.pending_of_error
        ((Table.find?_insert hinsert _).trans (if_pos rfl)) rfl
      have hmem := Table.mem_of_find? hfind
      have hid : order.id = (env 1).newId := Table.key_of_find? hfind
      refine hcompensated.closed order ?_ (by rw [hid]; exact hnone) (by simp [hpending])
      rwa [World.request_orders]
    · rintro (⟨m, hm⟩ | hm)
      · simp [hdb] at hm
      · exact hm hnone
  | placed => cases hreject

section Example

private def twoOfA : CreateOrderData := ⟨"u", [⟨"a", 2⟩], ⟨"", "", "", "", ""⟩, some "card"⟩

private def onShelf : World := .opening (.single "a" ⟨10, 0, 5⟩)

private def cardDeclined : Script Turn := fun _ => .smooth (.failed "Your card was declined.") "o"

theorem compensated_iff_onShelf :
    Compensated onShelf (Prog.play World.handle cardDeclined (OrderService.create twoOfA) onShelf).2 ↔
      (∃ m, (cardDeclined 1).db = .reject m) ∨ onShelf.orders.find? (cardDeclined 1).newId ≠ none :=
  compensated_iff (fun _ => rfl) (by decide) (e := .badRequest "Payment failed") (by decide)

/-- The declined order stays `PENDING`, and its two units have been given back twice. -/
theorem not_compensated_onShelf :
    ¬ Compensated onShelf
      (Prog.play World.handle cardDeclined (OrderService.create twoOfA) onShelf).2 ∧
    (Prog.play World.handle cardDeclined (OrderService.create twoOfA) onShelf).2.inventory "a" =
      some ⟨10, -2, 5⟩ := by
  refine ⟨fun h => ?_, by decide⟩
  have hstock := congrFun h.stock "a"
  revert hstock
  decide

end Example

end Ecommerce
