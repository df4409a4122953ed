import OrderDesk.Calendar.Timestamp
import OrderDesk.Fault

-- Lengths of time in seconds, and moments that lie such a length apart.
namespace OrderDesk

-- Whole microseconds of a length in seconds; the fraction is rounded to the nearest, a half to even.
def microsOf : Number → Except Fault Int
  | .int n => .ok (n * secondMicros)
  | .float x =>
    match x with
    | .finite negative quanta _ =>
      let whole := quanta / Binary64.scale
      let rest := Binary64.ofQuanta false (quanta % Binary64.scale) * Binary64.ofNat secondMicros
      let micros := match rest with
        | .finite _ part _ => Binary64.roundDiv part Binary64.scale
        | _ => 0
      .ok (Binary64.signed negative (whole * secondMicros + micros))
    | .nan => .error (.badValue "cannot convert float NaN to integer")
    | _ => .error .overflow

def Timestamp.after (t : Timestamp) (seconds : Number) : Except Fault Timestamp := do
  match t.shift? (← microsOf seconds) with
  | some later => pure later
  | none => throw .overflow

def Timestamp.minus (a b : Timestamp) : Except Fault Int :=
  match a.since? b with
  | some micros => .ok micros
  | none => .error .wrongKind

-- The start of the year 1970 in universal time.
def Timestamp.epoch : Timestamp := (origin.shift? ((719162 * dayMicros : Nat) : Int)).getD origin

def Timestamp.ofSeconds (seconds : Number) : Except Fault Timestamp := epoch.after seconds

end OrderDesk
