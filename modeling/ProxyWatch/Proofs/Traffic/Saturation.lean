import Mathlib
import ProxyWatch.Proofs.Data.Ordered
import ProxyWatch.Traffic.Rates

/-! The sum of a sheet, whose counters stop at the largest one.

A sum that has stopped stays where it is, so that holding back every step comes to the same as holding back the exact
sum once. Nothing depends on the order of the steps then. -/
namespace ProxyWatch

namespace Rate

/-- The exact sum of two rates, which no counter may be able to hold. -/
def plus (x y : Rate) : Rate := ⟨x.upload + y.upload, x.download + y.download⟩

/-- A rate with each counter held at the largest. -/
def held (rate : Rate) : Rate := ⟨min rate.upload Json.counterLimit, min rate.download Json.counterLimit⟩

/-- The exact sum of some rates. -/
def exactSum (rates : List Rate) : Rate := ⟨(rates.map upload).sum, (rates.map download).sum⟩

/-- No counter is above the other's. -/
structure AtMost (x y : Rate) : Prop where
  upload : x.upload ≤ y.upload
  download : x.download ≤ y.download

theorem plus_assoc (x y z : Rate) : (x.plus y).plus z = x.plus (y.plus z) := by
  simp only [plus, Nat.add_assoc]

theorem zero_plus (rate : Rate) : zero.plus rate = rate := by
  simp only [plus, zero, Nat.zero_add]

theorem plus_comm (x y : Rate) : x.plus y = y.plus x := by
  simp only [plus, Nat.add_comm]

theorem exactSum_cons (rate : Rate) (rest : List Rate) : exactSum (rate :: rest) = rate.plus (exactSum rest) := by
  simp only [exactSum, plus, List.map_cons, List.sum_cons]

theorem exactSum_perm {rates others : List Rate} (same : rates.Perm others) : exactSum rates = exactSum others := by
  rw [exactSum, exactSum, (same.map upload).sum_eq, (same.map download).sum_eq]

/-- What has been held back before makes no difference to what is held back now. -/
theorem addSaturating_held (sum rate : Rate) : sum.held.addSaturating rate = (sum.plus rate).held := by
  have upload : min (min sum.upload Json.counterLimit + rate.upload) Json.counterLimit =
      min (sum.upload + rate.upload) Json.counterLimit := by omega
  have download : min (min sum.download Json.counterLimit + rate.download) Json.counterLimit =
      min (sum.download + rate.download) Json.counterLimit := by omega
  simp only [addSaturating, held, plus, upload, download]

private theorem foldl_addSaturating (rates : List Rate) (sum : Rate) :
    rates.foldl addSaturating sum.held = (sum.plus (exactSum rates)).held := by
  induction rates generalizing sum with
  | nil => rfl
  | cons rate rest ih => rw [List.foldl_cons, addSaturating_held, ih, exactSum_cons, plus_assoc]

private theorem atMost_addSaturating (sum rate : Rate) : sum.held.AtMost (sum.held.addSaturating rate) := by
  constructor <;> simp only [held, addSaturating] <;> omega

end Rate

namespace RateSheet

/-- The sheet with the rate of one more connection. -/
def add (sheet : RateSheet) (id : String) (rate : Rate) : RateSheet :=
  { sheet with connections := Dictionary.insert sheet.connections id rate }

/-- The exact sum of all connections. -/
def exactSum (sheet : RateSheet) : Rate := Rate.exactSum (sheet.connections.map (·.2))

theorem sum_eq_held_exactSum (sheet : RateSheet) : sheet.sum = sheet.exactSum.held := by
  have folded := Rate.foldl_addSaturating (sheet.connections.map (·.2)) Rate.zero
  rw [List.foldl_map, Rate.zero_plus] at folded
  exact folded

private theorem exactSum_add {sheet : RateSheet} {id : String} (new : sheet.get? id = none) (rate : Rate) :
    (sheet.add id rate).exactSum = sheet.exactSum.plus rate := by
  have added := (Dictionary.insert_perm new rate).map (·.2)
  rw [exactSum, add, Rate.exactSum_perm added, List.map_cons, Rate.exactSum_cons, Rate.plus_comm, exactSum]

/-- The sum of a sheet is the exact sum of its rates, each counter by itself, as far as a counter can hold it. In
whatever order the rates are added up, this is their sum, and a new connection is added to it as it would have been
among the others; it takes nothing away. -/
theorem sum_of_connections (sheet : RateSheet) :
    (sheet.sum.upload = min (sheet.connections.map fun (_, rate) => rate.upload).sum (2 ^ 64 - 1) ∧
      sheet.sum.download = min (sheet.connections.map fun (_, rate) => rate.download).sum (2 ^ 64 - 1)) ∧
    (∀ other : RateSheet, other.connections.Perm sheet.connections → other.sum = sheet.sum) ∧
    ∀ id rate, sheet.get? id = none → (sheet.add id rate).sum = sheet.sum.addSaturating rate ∧
      sheet.sum.AtMost (sheet.add id rate).sum := by
  refine ⟨?_, ?_, ?_⟩
  · rw [sum_eq_held_exactSum, exactSum, Rate.exactSum, List.map_map, List.map_map]
    exact ⟨rfl, rfl⟩
  · intro other same
    rw [sum_eq_held_exactSum, sum_eq_held_exactSum, exactSum, exactSum, Rate.exactSum_perm (same.map (·.2))]
  · intro id rate new
    have joined : (sheet.add id rate).sum = sheet.sum.addSaturating rate := by
      rw [sum_eq_held_exactSum, sum_eq_held_exactSum, exactSum_add new, Rate.addSaturating_held]
    refine ⟨joined, ?_⟩
    rw [joined, sum_eq_held_exactSum]
    exact Rate.atMost_addSaturating sheet.exactSum rate

/-- A sum that stops in one counter, at its second rate, and goes on in the other; a new connection comes first. -/
theorem sum_of_connections_stopped :
    let sheet : RateSheet := { connections := [("b", ⟨2 ^ 64 - 2, 3⟩), ("c", ⟨5, 4⟩), ("d", ⟨2 ^ 64 - 1, 0⟩)] }
    let turned : RateSheet := { connections := [("d", ⟨2 ^ 64 - 1, 0⟩), ("b", ⟨2 ^ 64 - 2, 3⟩), ("c", ⟨5, 4⟩)] }
    (turned.connections.Perm sheet.connections ∧ sheet.get? "a" = none) ∧
      sheet.sum = ⟨2 ^ 64 - 1, 7⟩ ∧ turned.sum = sheet.sum ∧
      (sheet.add "a" ⟨1, 2 ^ 64 - 8⟩).sum = ⟨2 ^ 64 - 1, 2 ^ 64 - 1⟩ ∧
      sheet.sum.AtMost (sheet.add "a" ⟨1, 2 ^ 64 - 8⟩).sum := by
  intro sheet turned
  have same : turned.connections.Perm sheet.connections := by decide
  have new : sheet.get? "a" = none := by decide
  obtain ⟨-, reordered, added⟩ := sum_of_connections sheet
  obtain ⟨joined, least⟩ := added "a" ⟨1, 2 ^ 64 - 8⟩ new
  exact ⟨⟨same, new⟩, by decide +kernel, reordered turned same, joined.trans (by decide +kernel), least⟩

end RateSheet
end ProxyWatch
