import OrderDesk.Proofs.Trailing.Mark

-- Ticks of a trailing stop: what is written, answered and told when the market is looked at.
namespace OrderDesk

theorem Order.observe_trailing {o : Order} {t next : Trailing} {terms : TrailingTerms} {snapshot : Snapshot} {fields : Fields}
    (own : o.params.terms = .trailingStop terms) (held : o.trailing = some t)
    (followed : t.follow terms snapshot = .ok (next,fields)) (now : Timestamp) : o.observe snapshot now =
      .ok ({o with trailing := some next},if fields.isEmpty then snapshot else Fields.set "trailing" (.obj fields) snapshot) := by
  have unscheduled (merged : Snapshot) : Order.withSchedule {o with trailing := some next} now merged = .ok merged := by
    unfold withSchedule
    split
    · rw [own]
      rfl
    · rfl
  rw [observe,withTrailing,held,own]
  simp only [Terms.trailing?,followed,bind_ok,pure_ok,unscheduled]

-- A mark that is a float is raised above the one before.
def Trailing.Rises (t next : Trailing) : Prop :=
  ∃ old high, t.mark = .float old ∧ next.mark = .float high ∧ (Number.float high).gt (.float old) = true

namespace Tick

theorem rose_typed {t next : Trailing} (typed : t.Typed) (typedNext : next.Typed) :
    ∃ higher, rose (some t) (some next) = .ok higher ∧ (higher = true ↔ t.Rises next) := by
  rw [rose,Trailing.Rises]
  rcases typed with none | ⟨x,held⟩
  · rw [none]
    exact ⟨false,rfl,by simp⟩
  · rcases typedNext with none | ⟨y,heldNext⟩
    · rw [held,none]
      exact ⟨false,rfl,by simp⟩
    · rw [held,heldNext]
      exact ⟨_,rfl,by simp⟩

theorem decide_trailing {o : Order} {t next : Trailing} {terms : TrailingTerms} {snapshot : Snapshot} {fields : Fields}
    (watched : o.status = .active ∨ o.status = .triggered) (own : o.params.terms = .trailingStop terms)
    (held : o.trailing = some t) (typed : t.Typed) (followed : t.follow terms snapshot = .ok (next,fields))
    (id : Json) (now : Timestamp) : ∃ higher, (higher = true ↔ t.Rises next) ∧ decide id snapshot now (some o) =
      .store {o with trailing := some next}
        (some (if fields.isEmpty then snapshot else Fields.set "trailing" (.obj fields) snapshot))
        (Tick.followed id {o with trailing := some next} higher) := by
  have seen := Order.observe_trailing own held followed now
  obtain ⟨higher,rises,same⟩ := rose_typed typed (Trailing.follow_typed typed followed)
  have lasts : expired {o with trailing := some next} now = .ok false := by
    unfold expired Order.schedule?
    rw [own]
    split <;> rfl
  refine ⟨higher,same,?_⟩
  rw [decide,if_pos watched,observed,seen]
  simp only [held,rises,lasts]
  exact congrArg (Decision.store _ _) (List.append_nil _)

end Tick

namespace Desk

section
variable {d : Desk} {visits : List Visit} {id : String} {snapshot : Snapshot} {o : Order}

theorem prepare_announced {t next : Trailing} {terms : TrailingTerms} {fields : Fields} (ready : d.Ready visits)
    (stored : d.stored id = some o) (watched : o.status = .active ∨ o.status = .triggered)
    (own : o.params.terms = .trailingStop terms) (held : o.trailing = some t) (typed : t.Typed)
    (followed : t.follow terms snapshot = .ok (next,fields)) : ∃ storage higher, (higher = true ↔ t.Rises next) ∧
      d.prepare (.str id) snapshot =
        (announceAll {d with storage} {o with trailing := some next}
          (Tick.followed (.str id) {o with trailing := some next} higher),
         .ok (some (if fields.isEmpty then snapshot else Fields.set "trailing" (.obj fields) snapshot))) ∧
      (announceAll {d with storage} {o with trailing := some next}
        (Tick.followed (.str id) {o with trailing := some next} higher)).stored id = some {o with trailing := some next} := by
  obtain ⟨sound,moments⟩ := ready.orders id o stored
  obtain ⟨higher,rises,decided⟩ := Tick.decide_trailing watched own held typed followed (.str id) d.clock
  rw [← stored] at decided
  obtain ⟨storage,written,changes⟩ := amend_announced ready decided
    ⟨sound.id,sound.flow,sound.error,sound.params⟩
    ⟨moments.createdAt,moments.updatedAt,moments.triggeredAt,moments.completedAt,moments.schedule⟩
  exact ⟨storage,higher,rises,written,changes.here⟩

theorem prepare_trailing {t next : Trailing} {terms : TrailingTerms} {fields : Fields} (ready : d.Ready visits)
    (stored : d.stored id = some o) (watched : o.status = .active ∨ o.status = .triggered)
    (own : o.params.terms = .trailingStop terms) (held : o.trailing = some t) (sound : t.Sound)
    (followed : t.follow terms snapshot = .ok (next,fields)) :
    ∃ after, d.prepare (.str id) snapshot =
        (after,.ok (some (if fields.isEmpty then snapshot else Fields.set "trailing" (.obj fields) snapshot))) ∧
      after.stored id = some {o with trailing := some next} := by
  obtain ⟨storage,higher,-,prepared,same⟩ := prepare_announced ready stored watched own held sound.typed followed
  exact ⟨_,prepared,same⟩

theorem visit_prepare {v : Visit} {after : Desk} {answer : Except Fault (Option Snapshot)} (asked : v.call = .prepare id snapshot)
    (prepared : Desk.prepare {d with clock := v.now} (.str id) snapshot = (after,answer)) : d.visit v = (after,.prepared answer) := by
  rw [visit,asked,perform,prepared]

-- Nothing comes of a tick for an order that is not watched.
theorem prepare_idle (snapshot : Snapshot) (ready : d.Ready visits) (stored : d.stored id = some o)
    (unwatched : ¬ (o.status = .active ∨ o.status = .triggered)) : d.prepare (.str id) snapshot = (d,.ok none) := by
  have decided : Tick.decide (.str id) snapshot d.clock (d.stored id) = .keep none [] := by
    rw [stored]
    exact if_neg unwatched
  exact amend_keep ready decided

theorem prepare_unwatched (snapshot : Snapshot) (ready : d.Ready visits) (stored : d.stored id = some o)
    (unwatched : ¬ (o.status = .active ∨ o.status = .triggered)) :
    ∃ after, d.prepare (.str id) snapshot = (after,.ok none) ∧ after.stored id = some o :=
  ⟨d,prepare_idle snapshot ready stored unwatched,stored⟩

end

end Desk
end OrderDesk
