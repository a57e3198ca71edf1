import TableTalk.Domain.Entry
import TableTalk.Proofs.Decimal.Exact

namespace TableTalk

namespace Value

inductive Identity where
  | nothing
  | text (s : String)
  | date (d : Date)
  | moment (m : Moment)
  | amount (a : Decimal.Amount)
  | collection

def identity : Value → Identity
  | .null => .nothing
  | .bool b => .amount (.number (if b then 1 else 0))
  | .int n => .amount (.number n)
  | .float x => .amount (Decimal.amount x)
  | .text s => .text s
  | .date d => .date d
  | .moment m => .moment m
  | .list _ | .mapping _ | .named _ _ => .collection

@[simp] theorem identity_bool (b : Bool) : (bool b).identity = (int (if b then 1 else 0)).identity := by
  cases b <;> simp [identity]

theorem sameKey_bool (b : Bool) (other : Value) :
    (bool b).sameKey other = (int (if b then 1 else 0)).sameKey other := by
  cases other <;> rfl

theorem sameKey_bool_right (a : Value) (b : Bool) : a.sameKey (bool b) = a.sameKey (int (if b then 1 else 0)) := by
  cases a <;> rfl

/-- A value that is no collection is the same key as another one exactly if it stands for the same. -/
theorem sameKey_iff {a : Value} (usable : DomainSource.isUsableRecord a = true) (b : Value) :
    a.sameKey b = true ↔ a.identity = b.identity := by
  wlog counted : ∀ p, a ≠ bool p generalizing a with general
  · obtain ⟨p, rfl⟩ : ∃ p, a = bool p := by simpa only [not_forall, not_not] using counted
    rw [sameKey_bool, identity_bool]
    exact general (by rfl) (by simp)
  wlog other : ∀ p, b ≠ bool p generalizing b with general
  · obtain ⟨p, rfl⟩ : ∃ p, b = bool p := by simpa only [not_forall, not_not] using other
    rw [sameKey_bool_right, identity_bool]
    exact general _ (by simp)
  cases a with
  | list | mapping | named => cases usable
  | bool p => exact absurd rfl (counted p)
  | float x =>
    cases b with
    | float y => simpa [sameKey, identity] using Decimal.amount_eq_iff x y
    | int n =>
      calc (float x).sameKey (int n) = true
        _ ↔ Decimal.compareInt? x n = some .eq := decide_eq_true_iff
        _ ↔ Decimal.amount x = .number n := Decimal.compareInt?_eq_iff x n
        _ ↔ (float x).identity = (int n).identity := by simp [identity]
    | bool p => exact absurd rfl (other p)
    | _ => simp [sameKey, identity, asInt?]
  | int n =>
    cases b with
    | float x => simpa [sameKey, identity, asInt?, eq_comm] using Decimal.compareInt?_eq_iff x n
    | bool p => exact absurd rfl (other p)
    | _ => simp [sameKey, identity, asInt?]
  | _ =>
    cases b with
    | bool p => exact absurd rfl (other p)
    | _ => simp [sameKey, identity, asInt?]

end Value

end TableTalk
