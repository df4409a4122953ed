import OrderDesk.Order.Decode
import OrderDesk.Proofs.Flow.Template

-- Names of fields. A field that is given once may be given by either of its names, in the parameters and in
-- their legs: what is read is the same, and it is read again as the same.
namespace OrderDesk
open Checked Validation

namespace Checked

-- Two readings that let the same values through. They may differ in the places that they find fault with.
def Agrees (x y : Checked α) : Prop := ∀ a, x = ok a ↔ y = ok a

namespace Agrees

theorem of_eq {x y : Checked α} (same : x = y) : x.Agrees y := fun a => by rw [same]

theorem zipWith {f : α → β → γ} {x y : Checked α} {u v : Checked β} (first : x.Agrees y) (second : u.Agrees v) :
    (Checked.zipWith f x u).Agrees (Checked.zipWith f y v) := by
  intro c
  simp only [zipWith_eq_ok,first _,second _]

theorem map {f : α → β} {x y : Checked α} (same : x.Agrees y) : (x.map f).Agrees (y.map f) := by
  intro b
  simp only [map_eq_ok,same _]

theorem functor {α β : Type} {f : α → β} {x y : Checked α} (same : x.Agrees y) : (f <$> x).Agrees (f <$> y) := same.map

theorem seq {α β : Type} {f g : Checked (α → β)} {x y : Checked α} (first : f.Agrees g) (second : x.Agrees y) :
    (f <*> x).Agrees (g <*> y) := first.zipWith second

theorem andThen {x y : Checked α} (same : x.Agrees y) (next : α → Checked β) : (x.andThen next).Agrees (y.andThen next) := by
  intro b
  simp only [andThen_eq_ok,same _]

end Agrees
end Checked

namespace Validation

-- What a field holds, by whichever name.
def Key.value? (key : Key) (fields : Fields) : Option Json := (key.find? fields).map Prod.snd

theorem Key.value_get (key : Key) (fields : Fields) : key.value? fields = (fields.get? key.wire).or (fields.get? key.plain) := by
  rw [value?,find?]
  cases fields.get? key.wire with
  | some v => rfl
  | none => simp [Function.comp_def]

section
variable {key : Key} {check : Check α} {fields others : Fields}

theorem needed_value {a : α} : needed key check fields = ok a ↔ ∃ v, key.value? fields = some v ∧ check v = ok a := by
  rw [needed,Key.value?]
  cases key.find? fields with
  | none => simp [under_eq_ok]
  | some found => simp [under_eq_ok]

theorem given_value {default a : α} : given key default check fields = ok a ↔
    (∃ v, key.value? fields = some v ∧ check v = ok a) ∨ (key.value? fields = none ∧ default = a) := by
  rw [given,Key.value?]
  cases key.find? fields with
  | none => simp
  | some found => simp [under_eq_ok]

theorem needed_agrees (same : key.value? fields = key.value? others) : (needed key check fields).Agrees (needed key check others) := by
  intro a
  rw [needed_value,needed_value,same]

theorem given_agrees {default : α} (same : key.value? fields = key.value? others) :
    (given key default check fields).Agrees (given key default check others) := by
  intro a
  rw [given_value,given_value,same]

end

-- The other name of a field among those of a record, and any other name as it is.
def respell (keys : List Key) (name : String) : String :=
  match keys.find? fun key => key.wire == name || key.plain == name with
  | some key => if key.wire = name then key.plain else key.wire
  | none => name

-- Some of the names are changed.

def spelled (keys : List Key) (chosen : String → Bool) (name : String) : String := if chosen name then respell keys name else name

def respelled (keys : List Key) (chosen : String → Bool) (fields : Fields) : Fields :=
  fields.map fun field => (spelled keys chosen field.1,field.2)

-- No field has both its names.
def Once (keys : List Key) (fields : Fields) : Prop :=
  ∀ key ∈ keys, key.wire = key.plain ∨ fields.get? key.wire = none ∨ fields.get? key.plain = none

instance (keys : List Key) (fields : Fields) : Decidable (Once keys fields) :=
  inferInstanceAs (Decidable (∀ key ∈ keys, _ ∨ _ ∨ _))

-- Each name belongs to one field.
def Distinct (keys : List Key) : Prop := ∀ key ∈ keys, respell keys key.wire = key.plain ∧ respell keys key.plain = key.wire

instance (keys : List Key) : Decidable (Distinct keys) := inferInstanceAs (Decidable (∀ key ∈ keys, _ ∧ _))

section
variable {keys : List Key} {key : Key} {fields : Fields} {name : String} {chosen : String → Bool}

theorem respell_again (distinct : Distinct keys) (name : String) : respell keys (respell keys name) = name := by
  cases found : keys.find? fun key => key.wire == name || key.plain == name with
  | none => simp [respell,found]
  | some key =>
    obtain ⟨wire,plain⟩ := distinct key (List.mem_of_find?_eq_some found)
    have named : key.wire = name ∨ key.plain = name := by simpa using List.find?_some found
    have once : respell keys name = if key.wire = name then key.plain else key.wire := by rw [respell,found]
    rw [once]
    cases named with
    | inl own => rw [if_pos own,plain,own]
    | inr own =>
      subst own
      by_cases same : key.wire = key.plain
      · rw [if_pos same,plain,same]
      · rw [if_neg same,wire]

theorem respell_iff (distinct : Distinct keys) {a b : String} : respell keys a = b ↔ a = respell keys b := by
  constructor
  · intro same
    rw [← same,respell_again distinct]
  · intro same
    rw [same,respell_again distinct]

-- A name comes from itself, where it is not changed, and from its other name where that is.
theorem spelled_iff (distinct : Distinct keys) {a b : String} (other : respell keys a = b) :
    spelled keys chosen name = a ↔ (chosen a = false ∧ name = a) ∨ (chosen b = true ∧ name = b) := by
  by_cases changed : chosen name = true
  · rw [spelled,if_pos changed,respell_iff distinct,other]
    constructor
    · intro same
      exact Or.inr ⟨same ▸ changed,same⟩
    · intro either
      cases either with
      | inl kept => rw [← kept.2,changed] at kept; cases kept.1
      | inr moved => exact moved.2
  · rw [spelled,if_neg changed]
    rw [Bool.not_eq_true] at changed
    constructor
    · intro same
      exact Or.inl ⟨same ▸ changed,same⟩
    · intro either
      cases either with
      | inl kept => exact kept.2
      | inr moved => rw [← moved.2,changed] at moved; cases moved.1

theorem get_renamed {rename : String → String} {old new : String} {fields : Fields}
    (only : ∀ field ∈ fields, rename field.1 = new ↔ field.1 = old) :
    Fields.get? new (fields.map fun field => (rename field.1,field.2)) = fields.get? old := by
  induction fields with
  | nil => rfl
  | cons field rest ih =>
    have first := only field List.mem_cons_self
    have later := ih fun other member => only other (List.mem_cons_of_mem field member)
    simp only [List.map_cons,get_cons,first,later]

theorem absent_names (absent : fields.get? name = none) : ∀ field ∈ fields, field.1 ≠ name := by
  simpa [Fields.get?] using absent

-- A field that is given by one name keeps its value, under that name or under the other.
theorem respelled_get (chosen : String → Bool) (distinct : Distinct keys) {a b : String} (other : respell keys a = b)
    (absent : fields.get? b = none) :
    (respelled keys chosen fields).get? a = (if chosen a then none else fields.get? a) ∧
      (respelled keys chosen fields).get? b = if chosen a then fields.get? a else none := by
  have back : respell keys b = a := ((respell_iff distinct).mp other).symm
  have missing := absent_names absent
  have here (field) (member : field ∈ fields) : spelled keys chosen field.1 = a ↔ chosen a = false ∧ field.1 = a := by
    simp [spelled_iff distinct other,missing field member]
  have there (field) (member : field ∈ fields) : spelled keys chosen field.1 = b ↔ chosen a = true ∧ field.1 = a := by
    simp [spelled_iff distinct back,missing field member]
  cases changed : chosen a with
  | true =>
    rw [if_pos rfl,if_pos rfl]
    constructor
    · apply get_absent
      simpa [respelled,changed] using here
    · apply get_renamed
      simpa [changed] using there
  | false =>
    rw [if_neg Bool.false_ne_true,if_neg Bool.false_ne_true]
    constructor
    · apply get_renamed
      simpa [changed] using here
    · apply get_absent
      simpa [respelled,changed] using there

theorem respelled_value (chosen : String → Bool) (distinct : Distinct keys) (listed : key ∈ keys) (once : Once keys fields) :
    key.value? (respelled keys chosen fields) = key.value? fields := by
  obtain ⟨wire,plain⟩ := distinct key listed
  rw [Key.value_get,Key.value_get]
  rcases once key listed with same | absent | absent
  · have only : (respelled keys chosen fields).get? key.wire = fields.get? key.wire := by
      apply get_renamed
      intro field member
      rw [spelled_iff distinct wire,← same]
      cases chosen key.wire <;> simp
    rw [← same,only]
  · obtain ⟨here,there⟩ := respelled_get chosen distinct plain absent
    rw [here,there,absent]
    cases chosen key.plain <;> simp
  · obtain ⟨here,there⟩ := respelled_get chosen distinct wire absent
    rw [here,there,absent]
    cases chosen key.wire <;> simp

end
end Validation

namespace Field

-- The fields of a leg, and those that parameters of a kind are read from.

def ofLeg : List Key := [conditions,sellPercent]

def ofTerms : Kind → List Key
  | .stopLoss | .takeProfit => [triggerPrice,sellPercent,receiveToken]
  | .conditionalSell => [conditions,sellPercent,receiveToken]
  | .conditionalBuy => [conditions,sellToken,spendAmount]
  | .smartEntry => [conditions,sellToken,spendAmount,maxSpendTotal,cooldownMinutes]
  | .dca => [sellToken,amountPerExecution,interval,conditions,maxExecutions,endDate]
  | .twap => [buyToken,totalAmount,duration,slices,conditions]
  | .trailingStop => [trailPercent,sellPercent,activationConditions,initialPrice,priceField,receiveToken]
  | .dualProtection => [stopLoss,takeProfit,receiveToken]

def ofKind (kind : Kind) : List Key := [token,chainId,notifyChannels] ++ ofTerms kind

theorem ofLeg_distinct : Distinct ofLeg := by decide

theorem ofKind_distinct (kind : Kind) : Distinct (ofKind kind) := by
  cases kind <;> decide

end Field

-- Which names are changed, at the top and in each leg.
structure Spelling where
  top : String → Bool
  lower : String → Bool
  upper : String → Bool

namespace Spelling

def leg (chosen : String → Bool) : Json → Json
  | .obj fields => .obj (respelled Field.ofLeg chosen fields)
  | v => v

-- What becomes of the value of a field.
def inner (spelling : Spelling) (name : String) (v : Json) : Json :=
  if name = Field.stopLoss.wire ∨ name = Field.stopLoss.plain then leg spelling.lower v
  else if name = Field.takeProfit.wire ∨ name = Field.takeProfit.plain then leg spelling.upper v
  else v

def apply (spelling : Spelling) (kind : Kind) (fields : Fields) : Fields :=
  respelled (Field.ofKind kind) spelling.top (fields.map fun field => (field.1,spelling.inner field.1 field.2))

end Spelling

-- No field has both its names, at the top or in a leg.
structure Fields.Once (kind : Kind) (fields : Fields) : Prop where
  top : Validation.Once (Field.ofKind kind) fields
  leg : kind = .dualProtection → ∀ key ∈ [Field.stopLoss,Field.takeProfit], ∀ own, key.value? fields = some (.obj own) →
    Validation.Once Field.ofLeg own

section
variable {fields others : Fields} {kind : Kind} {spelling : Spelling} {key : Key}

theorem get_inner (change : String → Json → Json) (fields : Fields) (name : String) :
    Fields.get? name (fields.map fun field => (field.1,change field.1 field.2)) = (fields.get? name).map (change name) := by
  induction fields with
  | nil => rfl
  | cons field rest ih =>
    by_cases same : field.1 = name
    · subst same
      simp [get_cons]
    · simp [get_cons,same,ih]

theorem Spelling.apply_value (spelling : Spelling) (listed : key ∈ Field.ofKind kind) (once : fields.Once kind)
    (alike : spelling.inner key.plain = spelling.inner key.wire) :
    key.value? (spelling.apply kind fields) = (key.value? fields).map (spelling.inner key.wire) := by
  have kept : Validation.Once (Field.ofKind kind) (fields.map fun field => (field.1,spelling.inner field.1 field.2)) := by
    intro other member
    simpa [get_inner] using once.top other member
  rw [apply,respelled_value _ (Field.ofKind_distinct kind) listed kept,Key.value_get,Key.value_get,get_inner,get_inner,alike]
  cases fields.get? key.wire <;> rfl

-- All fields but the legs keep their values.

def Apart (key : Key) : Prop := ∀ name ∈ [key.wire,key.plain], name ∉ ["stopLoss","stop_loss","takeProfit","take_profit"]

instance (key : Key) : Decidable (Apart key) := inferInstanceAs (Decidable (∀ name ∈ _, _))

theorem Spelling.apply_kept (listed : key ∈ Field.ofKind kind) (once : fields.Once kind) (apart : Apart key) :
    key.value? (spelling.apply kind fields) = key.value? fields := by
  have own (name) (member : name ∈ [key.wire,key.plain]) : spelling.inner name = id := by
    have others := apart name member
    funext v
    simp_all [inner,Field.stopLoss,Field.takeProfit]
  have wire := own key.wire (by simp)
  have plain := own key.plain (by simp)
  rw [apply_value spelling listed once (plain.trans wire.symm),wire,Option.map_id_fun,id]

namespace Terms

theorem percentOf_agrees (same : Field.sellPercent.value? fields = Field.sellPercent.value? others) :
    (percentOf fields).Agrees (percentOf others) := given_agrees same

theorem receiveTokenOf_agrees (same : Field.receiveToken.value? fields = Field.receiveToken.value? others) :
    (receiveTokenOf fields).Agrees (receiveTokenOf others) := given_agrees same

theorem conditionsOf_agrees (same : Field.conditions.value? fields = Field.conditions.value? others) :
    (conditionsOf fields).Agrees (conditionsOf others) := needed_agrees same

theorem saleOf_agrees (percent : Field.sellPercent.value? fields = Field.sellPercent.value? others)
    (receive : Field.receiveToken.value? fields = Field.receiveToken.value? others) : (saleOf fields).Agrees (saleOf others) :=
  (percentOf_agrees percent).zipWith (receiveTokenOf_agrees receive)

theorem purchaseOf_agrees (token : Field.sellToken.value? fields = Field.sellToken.value? others)
    (amount : key.value? fields = key.value? others) : (purchaseOf key fields).Agrees (purchaseOf key others) :=
  (needed_agrees token).zipWith (needed_agrees amount)

theorem leg_agrees (chosen : String → Bool) (v : Json) (once : ∀ own, v = .obj own → Validation.Once Field.ofLeg own) :
    (record "ProtectionLeg" legOf (Spelling.leg chosen v)).Agrees (record "ProtectionLeg" legOf v) := by
  cases v with
  | obj own =>
    have kept (key) (listed : key ∈ Field.ofLeg) := respelled_value chosen Field.ofLeg_distinct listed (once own rfl)
    exact (conditionsOf_agrees (kept _ (by simp [Field.ofLeg]))).zipWith (percentOf_agrees (kept _ (by simp [Field.ofLeg])))
  | _ => exact .of_eq rfl

theorem legs_agree {chosen : String → Bool} (changed : key.value? others = (key.value? fields).map (Spelling.leg chosen))
    (once : ∀ own, key.value? fields = some (.obj own) → Validation.Once Field.ofLeg own) :
    (needed key (record "ProtectionLeg" legOf) others).Agrees (needed key (record "ProtectionLeg" legOf) fields) := by
  intro leg
  rw [needed_value,needed_value,changed]
  cases held : key.value? fields with
  | none => simp
  | some v =>
    have same := leg_agrees chosen v (fun own value => once own (by rw [held,value])) leg
    simp [same]

-- Kind by kind, every field is looked up under both names.
theorem ofFields_agrees (spelling : Spelling) (once : fields.Once kind) :
    (ofFields kind (spelling.apply kind fields)).Agrees (ofFields kind fields) := by
  have kept : ∀ key ∈ Field.ofTerms kind, Apart key → key.value? (spelling.apply kind fields) = key.value? fields := by
    intro key listed
    exact Spelling.apply_kept (List.mem_append_right _ listed) once
  cases kind with
  | stopLoss | takeProfit =>
    simp only [Field.ofTerms,List.forall_mem_cons] at kept
    obtain ⟨trigger,percent,receive,-⟩ := kept
    exact (needed_agrees (trigger (by decide))).zipWith (saleOf_agrees (percent (by decide)) (receive (by decide)))
  | conditionalSell =>
    simp only [Field.ofTerms,List.forall_mem_cons] at kept
    obtain ⟨conditions,percent,receive,-⟩ := kept
    exact (conditionsOf_agrees (conditions (by decide))).zipWith (saleOf_agrees (percent (by decide)) (receive (by decide)))
  | conditionalBuy =>
    simp only [Field.ofTerms,List.forall_mem_cons] at kept
    obtain ⟨conditions,token,amount,-⟩ := kept
    exact (conditionsOf_agrees (conditions (by decide))).zipWith (purchaseOf_agrees (token (by decide)) (amount (by decide)))
  | smartEntry =>
    simp only [Field.ofTerms,List.forall_mem_cons] at kept
    obtain ⟨conditions,token,amount,budget,cooldown,-⟩ := kept
    exact (((conditionsOf_agrees (conditions (by decide))).functor.seq
      (purchaseOf_agrees (token (by decide)) (amount (by decide)))).seq
        (given_agrees (budget (by decide)))).seq (given_agrees (cooldown (by decide)))
  | dca =>
    simp only [Field.ofTerms,List.forall_mem_cons] at kept
    obtain ⟨token,amount,interval,conditions,count,endDate,-⟩ := kept
    have purchase := purchaseOf_agrees (token (by decide)) (amount (by decide))
    exact ((((purchase.functor.seq (needed_agrees (interval (by decide)))).seq (given_agrees (conditions (by decide)))).seq
      (given_agrees (count (by decide)))).seq (given_agrees (endDate (by decide)))).map
  | twap =>
    simp only [Field.ofTerms,List.forall_mem_cons] at kept
    obtain ⟨token,total,duration,slices,conditions,-⟩ := kept
    exact (((((needed_agrees (token (by decide))).functor.seq (needed_agrees (total (by decide)))).seq
      (needed_agrees (duration (by decide)))).seq (needed_agrees (slices (by decide)))).seq
        (given_agrees (conditions (by decide)))).map
  | trailingStop =>
    simp only [Field.ofTerms,List.forall_mem_cons] at kept
    obtain ⟨trail,percent,activation,initial,field,receive,-⟩ := kept
    exact ((((((needed_agrees (trail (by decide))).functor.seq (percentOf_agrees (percent (by decide)))).seq
      (given_agrees (activation (by decide)))).seq (given_agrees (initial (by decide)))).seq
        (given_agrees (field (by decide)))).seq (receiveTokenOf_agrees (receive (by decide)))).map
  | dualProtection =>
    simp only [Field.ofTerms,List.forall_mem_cons] at kept
    obtain ⟨-,-,receive,-⟩ := kept
    have lower := spelling.apply_value (by simp [Field.ofKind,Field.ofTerms] : Field.stopLoss ∈ Field.ofKind .dualProtection) once rfl
    have upper := spelling.apply_value (by simp [Field.ofKind,Field.ofTerms] : Field.takeProfit ∈ Field.ofKind .dualProtection) once rfl
    have legs := once.leg rfl
    exact ((legs_agree lower (legs _ (by simp))).functor.seq
      (legs_agree upper (legs _ (by simp)))).seq (receiveTokenOf_agrees (receive (by decide)))

end Terms

theorem Params.ofFields_agrees (once : fields.Once kind) :
    (ofFields kind (spelling.apply kind fields)).Agrees (ofFields kind fields) := by
  have kept : ∀ key ∈ [Field.token,Field.chainId,Field.notifyChannels], Apart key →
      key.value? (spelling.apply kind fields) = key.value? fields := by
    intro key listed
    exact Spelling.apply_kept (List.mem_append_left _ listed) once
  simp only [List.forall_mem_cons] at kept
  obtain ⟨token,chain,channels,-⟩ := kept
  have terms := Terms.ofFields_agrees spelling once
  exact ((((needed_agrees (token (by decide))).functor.seq (given_agrees (chain (by decide)))).seq
    (given_agrees (channels (by decide)))).seq terms).andThen _

end

namespace Params

-- Accepted parameters do not depend on how their fields are named, and stay as they are.
structure Steady (asked : Json) (kind : Kind) (fields : Fields) (p : Params) : Prop where
  -- Any other choice of names gives the same parameters,
  spelled : fields.Once kind → ∀ spelling : Spelling, parse asked (.obj (spelling.apply kind fields)) = .ok p
  -- they are accepted again as they are,
  again : p.recheck kind = .ok p
  -- and their flow is the flow of what was accepted.
  flow : ∀ d owner now, Flow.generate d owner kind p now = (Template.draft d p).map (Flow.ofDraft d owner kind now)

theorem parse_fields {asked : Json} {kind : Kind} {fields : Fields} {p : Params} (named : Kind.request asked = .ok kind) :
    parse asked (.obj fields) = .ok p ↔ ofFields kind fields = ok p := by
  rw [parse,named]
  exact orFault_eq_ok

theorem parse_steady {asked : Json} {kind : Kind} {fields : Fields} {p : Params} (named : Kind.request asked = .ok kind)
    (read : parse asked (.obj fields) = .ok p) : Steady asked kind fields p := by
  have accepted := (parse_fields named).mp read
  obtain ⟨own,settled⟩ := ofFields_settled accepted
  have again : p.recheck kind = .ok p := own ▸ recheck_settled settled
  refine ⟨?_,again,?_⟩
  · intro once spelling
    exact (parse_fields named).mpr ((ofFields_agrees once p).mpr accepted)
  · intro d owner now
    cases drafted : Template.draft d p with
    | ok plan => exact Flow.generate_made again drafted
    | error fault => simp [Flow.generate,again,bind_ok,drafted]; rfl

def ranged : Json := .obj [("operator",.str "AND"),("conditions",.arr [
  .obj [("field",.str "price"),("operator",.str "between"),("value",.arr [.int 1500,.str "1800"])]])]

-- One leg is given under its plain name, with its percent under the wire name, and the other the other way about.
def crossed : Fields := [("token",.str "ETH"),("notify_channels",.arr [.str "ops"]),
  ("stop_loss",.obj [("conditions",ranged),("sellPercent",.int 40)]),
  ("takeProfit",.obj [("conditions",.obj [("operator",.str "or"),("conditions",.arr [])]),("sell_percent",.str "60")])]

def uncrossed : Fields := [("token",.str "ETH"),("notifyChannels",.arr [.str "ops"]),
  ("stopLoss",.obj [("conditions",ranged),("sellPercent",.int 40)]),
  ("takeProfit",.obj [("conditions",.obj [("operator",.str "or"),("conditions",.arr [])]),("sellPercent",.str "60")])]

def straight : Spelling := ⟨fun name => ["notify_channels","stop_loss"].contains name,fun _ => false,fun _ => true⟩

theorem crossed_steady : ∃ p, parse (.str "dual-protection") (.obj crossed) = .ok p ∧
    parse (.str "dual-protection") (.obj uncrossed) = .ok p ∧ Steady (.str "dual-protection") .dualProtection crossed p := by
  have accepted : (parse (.str "dual-protection") (.obj crossed)).toOption.isSome = true := by decide +kernel
  obtain ⟨p,taken⟩ := Option.isSome_iff_exists.mp accepted
  have read := toOption_eq_some.mp taken
  have steady := parse_steady rfl read
  have once : crossed.Once .dualProtection := by
    refine ⟨by decide,?_⟩
    intro own
    simp only [List.forall_mem_cons]
    refine ⟨?_,?_,by simp⟩
    · intro leg found
      cases found
      decide
    · intro leg found
      cases found
      decide
  have same : straight.apply .dualProtection crossed = uncrossed := by rfl
  exact ⟨p,read,same ▸ steady.spelled once straight,steady⟩

end Params
end OrderDesk
