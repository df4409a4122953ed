import OrderDesk.Calendar.Span
import OrderDesk.Proofs.Desk.Creation
import OrderDesk.Proofs.Desk.Mirror
-- The kind of store makes no difference to a session: every visit is answered alike, told alike and asked of the runtime alike,
-- except that a listing may have orders of one moment in another sequence. That holds as long as the table can hold the moments,
-- print the numbers and commit.

namespace OrderDesk
namespace Desk

-- No two stored orders were created at one moment.
def BornApart (d : Desk) : Prop :=
  ∀ id other o p, d.stored id = some o → d.stored other = some p → o.born = p.born → o = p

-- Two answers to one listing: one refusal, or one page of listings that go alongside.
inductive Listed (p : Page) : Except Fault (List Order) → Except Fault (List Order) → Prop where
  | refused (fault : Fault) : Listed p (.error fault) (.error fault)
  | pages {listed others : List Order} (alongside : Alongside listed others) : Listed p (.ok (p.cut listed)) (.ok (p.cut others))

example (orders : List Order) : Page.whole.cut orders = orders := rfl

-- What is read of the parameters of a new order can be printed.
def Printable (broken : List (Access × Fault)) : Call → Prop
  | .create kind raw => ∀ p, Params.parse kind raw = .ok p → ∀ digits fault, (.print digits,fault) ∈ broken → p.toJson.within digits = true
  | _ => True

namespace Twins
variable {broken : List (Access × Fault)} {room : Nat} {a b : Desk}

theorem list (twins : a.Twins broken room b) (f : Filter) (p : Page) :
    Listed p (a.list f p) (b.list f p) ∧ (a.BornApart → b.list f p = a.list f p) := by
  have refused (fault : Fault) (here : a.listing f = .error fault) (there : b.listing f = .error fault) :
      Listed p (a.list f p) (b.list f p) ∧ (a.BornApart → b.list f p = a.list f p) := by
    rw [Desk.list,Desk.list,here,there]
    exact ⟨.refused fault,fun _ => rfl⟩
  rcases twins.stores.list_twins with ⟨fault,here,there⟩ | ⟨orders,others,here,there,permuted,distinct,stored⟩
  · exact refused fault (by rw [listing,here]; rfl) (by rw [listing,there]; rfl)
  · rcases f.select_perm permuted with ⟨first,second⟩ | ⟨chosen,picked,first,second,permuted,among⟩
    · exact refused .noSuchPart (by rw [listing,here,bind_ok,first]; rfl) (by rw [listing,there,bind_ok,second]; rfl)
    · rcases newestFirst_perm permuted with ⟨one,two⟩ | ⟨sorted,again,one,two,kept,alongside⟩
      · exact refused .wrongKind (by rw [listing,here,bind_ok,first,bind_ok,one]) (by rw [listing,there,bind_ok,second,bind_ok,two])
      · have listed : a.listing f = .ok sorted := by rw [listing,here,bind_ok,first,bind_ok,one]
        have relisted : b.listing f = .ok again := by rw [listing,there,bind_ok,second,bind_ok,two]
        rw [Desk.list,Desk.list,listed,relisted]
        refine ⟨.pages alongside,?_⟩
        intro apart
        have moments : (chosen.map Order.born).Nodup := by
          refine List.Nodup.map_on ?_ (among.nodup distinct)
          intro o member p other same
          obtain ⟨id,held⟩ := stored o (among.subset member)
          obtain ⟨own,found⟩ := stored p (among.subset other)
          exact apart id own o p held found same
        rw [alongside.equal ((kept.map Order.born).nodup_iff.mpr moments)]

theorem stats (twins : a.Twins broken room b) : b.stats = a.stats := by
  rw [Desk.stats,Desk.stats]
  rcases twins.stores.list_twins with ⟨fault,here,there⟩ | ⟨orders,others,here,there,permuted,-,-⟩
  · rw [here,there]
  · have counts {κ : Type} [DecidableEq κ] (key : Order → κ) (keys : List κ) :
        Stats.count key keys others = Stats.count key keys orders := by
      simp only [Stats.count,permuted.countP_eq]
    rw [here,there]
    simp only [Except.map,Stats.ofOrders,permuted.length_eq,counts]

-- Only listings may differ.
theorem perform (twins : a.Twins broken (room + 1) b) {call : Call} (printable : Printable broken call) :
    (a.perform call).1.Twins broken room (b.perform call).1 ∧
    ((∀ f p, call ≠ .list f p) → (b.perform call).2 = (a.perform call).2) := by
  have spared := twins.less (Nat.le_succ room)
  have alike {α : Type} {x y : Desk × α} (mirrored : Mirrored broken room x y) (respond : α → Response) :
      x.1.Twins broken room y.1 ∧ ((∀ f p, call ≠ .list f p) → respond y.2 = respond x.2) :=
    ⟨mirrored.desks,fun _ => congrArg respond mirrored.answer⟩
  cases call with
  | create kind params => exact alike (spared.create kind params printable) .created
  | activate id => exact alike (spared.moves id (Or.inl rfl)) .done
  | resume id => exact alike (spared.moves id (Or.inl rfl)) .done
  | pause id => exact alike (spared.moves id (Or.inl rfl)) .done
  | cancel id => exact alike (spared.cancel id) .done
  | updateStatus id status error branch => exact alike (spared.updateStatus id (.str status) error branch) .done
  | recordExecution id => exact alike (twins.recordExecution id) .done
  | prepare id snapshot => exact alike (spared.prepare id snapshot) .prepared
  | get id => exact ⟨spared,fun _ => congrArg Response.found (twins.stores.get_same id)⟩
  | list f p => exact ⟨spared,fun other => absurd rfl (other f p)⟩
  | stats => exact ⟨spared,fun _ => congrArg Response.counted twins.stats⟩

end Twins

namespace Pair
variable {broken : List (Access × Fault)} {room : Nat} {a b : Desk} {v : Visit}

theorem timed (pair : a.Pair broken room b) {now : Timestamp} (legible : now.Legible) :
    Twins broken room {a with clock := now} {b with clock := now} :=
  ⟨⟨(congrArg (fun d : Desk => {d with clock := now}) pair.same :),pair.stores⟩,legible⟩

theorem visit (pair : a.Pair broken (room + 1) b) (legible : v.now.Legible) (printable : Printable broken v.call) :
    (a.visit v).1.Pair broken room (b.visit v).1 :=
  ((pair.timed legible).perform printable).1.toPair

-- Each visit takes some of the room.
theorem run (earlier : List Visit) (pair : a.Pair broken (earlier.length + room) b) (legible : ∀ v ∈ earlier, v.now.Legible)
    (printable : ∀ v ∈ earlier, Printable broken v.call) : (a.run earlier).Pair broken room (b.run earlier) := by
  induction earlier generalizing a b with
  | nil =>
    rw [List.length_nil,Nat.zero_add] at pair
    exact pair
  | cons v rest ih =>
    rw [List.length_cons,Nat.add_right_comm] at pair
    refine ih (pair.visit (legible v List.mem_cons_self) (printable v List.mem_cons_self))
      (fun w member => legible w (List.mem_cons_of_mem v member)) fun w member => printable w (List.mem_cons_of_mem v member)

end Pair

-- A desk as it is, over an empty store of a kind.
def cleared (d : Desk) (b : Backend) : Desk := d.on ⟨.empty b,d.storage.broken⟩

end Desk
end OrderDesk
