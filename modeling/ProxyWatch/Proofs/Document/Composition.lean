import ProxyWatch.Document.Reconciler
import ProxyWatch.Proofs.Data.Attempt

/-! Patches one after the other.

A patch that is cut in two does what its parts do, and fails where the first of them fails. So it does
not matter how operations are cut into messages until one of them fails: its message is then left out as a
whole, and those after it go on from the document before it. -/
namespace ProxyWatch

namespace Patch
variable {patch first second : Patch} {document middle next : Json} {rejection : Rejection}

/-- A rejection told from the start of a longer patch. -/
def Rejection.after (count : Nat) (rejection : Rejection) : Rejection :=
  { rejection with index := count + rejection.index }

private theorem applyFrom_eq (patch : Patch) (index : Nat) (document : Json) :
    applyFrom index document patch = (patch.apply document).mapError (·.after index) := by
  suffices ∀ patch start document,
      applyFrom (index + start) document patch = (applyFrom start document patch).mapError (·.after index) from
    this patch 0 document
  intro patch
  induction patch with
  | nil => exact fun _ _ => rfl
  | cons operation rest ih =>
    intro start document
    simp only [applyFrom]
    cases operation.apply document with
    | ok next => exact ih (start + 1) next
    | error failure => rfl

theorem applyFrom_append (index : Nat) (first second : Patch) (document : Json) :
    applyFrom index document (first ++ second) =
      match applyFrom index document first with
      | .ok middle => applyFrom (index + first.length) middle second
      | .error rejection => .error rejection := by
  induction first generalizing index document with
  | nil => rfl
  | cons operation rest ih =>
    simp only [List.cons_append, applyFrom, List.length_cons]
    cases operation.apply document with
    | error failure => rfl
    | ok next =>
      simp only [ih, Nat.add_assoc, Nat.add_comm 1]

theorem apply_append_of_ok (applied : first.apply document = .ok middle) :
    (first ++ second).apply document = (second.apply middle).mapError (·.after first.length) := by
  unfold apply at applied
  rw [apply, applyFrom_append, applied, Nat.zero_add]
  exact applyFrom_eq second first.length middle

theorem apply_append_of_error (rejected : first.apply document = .error rejection) :
    (first ++ second).apply document = .error rejection := by
  unfold apply at rejected
  rw [apply, applyFrom_append, rejected]

theorem apply_append_eq_ok_iff : (first ++ second).apply document = .ok next ↔
    ∃ middle, first.apply document = .ok middle ∧ second.apply middle = .ok next := by
  cases applied : first.apply document with
  | error rejection => simp [apply_append_of_error applied]
  | ok middle =>
    rw [apply_append_of_ok applied, mapError_eq_ok_iff]
    simp

private theorem index_lt_of_applyFrom {index : Nat} (rejected : applyFrom index document patch = .error rejection) :
    rejection.index < index + patch.length := by
  induction patch generalizing index document with
  | nil => cases rejected
  | cons operation rest ih =>
    rw [applyFrom] at rejected
    split at rejected
    · have bound := ih rejected
      rw [List.length_cons]
      omega
    · cases rejected
      exact Nat.lt_add_of_pos_right (Nat.succ_pos _)

end Patch

namespace Reconciler
variable {document next : Json} {message : Patch} {messages : List Patch} {rejection : Patch.Rejection}

/-- The reconciler after some messages. -/
def follow (r : Reconciler) (messages : List Patch) : Reconciler :=
  messages.foldl (fun r message => (r.apply message).2) r

/-- What is answered to some messages. -/
def answers (r : Reconciler) : List Patch → List (Except PatchError Json)
  | [] => []
  | message :: rest => (r.apply message).1 :: (r.apply message).2.answers rest

private theorem apply_accepted (applied : message.apply document = .ok next) :
    (Reconciler.mk (some document)).apply message = (.ok next, ⟨some next⟩) := by
  simp [apply, Reconciler.next, applied]

theorem apply_rejected (rejected : message.apply document = .error rejection) :
    (Reconciler.mk (some document)).apply message = (.error (.rejected rejection), ⟨some document⟩) := by
  simp [apply, Reconciler.next, rejected]

/-- All messages are accepted exactly if their operations, one after the other, do not fail. -/
theorem flatten_apply_eq_ok_iff : Patch.apply messages.flatten document = .ok next ↔
    (∀ answer ∈ (Reconciler.mk (some document)).answers messages, answer.isOk) ∧
      (Reconciler.mk (some document)).follow messages = ⟨some next⟩ := by
  induction messages generalizing document with
  | nil => simp [answers, follow, Patch.apply, Patch.applyFrom]
  | cons message rest ih =>
    rw [List.flatten_cons, Patch.apply_append_eq_ok_iff]
    cases applied : message.apply document with
    | ok middle =>
      simp only [answers, follow, List.foldl_cons, apply_accepted applied, List.forall_mem_cons]
      simpa [Except.isOk, Except.toBool, follow] using ih
    | error rejection =>
      simp [answers, apply_rejected applied, Except.isOk, Except.toBool]

private theorem exists_rejected_message (rejected : Patch.apply messages.flatten document = .error rejection) :
    ∃ before failing after good own, messages = before ++ failing :: after ∧
      Patch.apply before.flatten document = .ok good ∧
      failing.apply good = .error own ∧ rejection = own.after before.flatten.length := by
  induction messages generalizing document rejection with
  | nil => cases rejected
  | cons message rest ih =>
    rw [List.flatten_cons] at rejected
    cases applied : message.apply document with
    | error own =>
      rw [Patch.apply_append_of_error applied] at rejected
      cases rejected
      exact ⟨[], message, rest, document, rejection, rfl, rfl, applied, by simp [Patch.Rejection.after]⟩
    | ok middle =>
      rw [Patch.apply_append_of_ok applied] at rejected
      cases later : Patch.apply rest.flatten middle with
      | ok last =>
        rw [later] at rejected
        cases rejected
      | error found =>
        rw [later] at rejected
        cases rejected
        obtain ⟨before, failing, after, good, own, rfl, reached, fails, rfl⟩ := ih later
        refine ⟨message :: before, failing, after, good, own, rfl, ?_, fails, ?_⟩
        · exact Patch.apply_append_eq_ok_iff.mpr ⟨middle, applied, reached⟩
        · simp [Patch.Rejection.after, Nat.add_assoc]

/-- Two patches one after the other are one patch, and the patch of no operations changes nothing. So
however operations are cut into messages, the messages are accepted and lead to one document if no
operation fails. If one fails, the messages before the one that holds it have led to a good baseline, the
message is rejected as a whole, and the messages after it go on from that baseline. -/
theorem baseline_of_messages (document : Json) :
    (∀ (first second : Patch) next, (first ++ second).apply document = .ok next ↔
      ∃ middle, first.apply document = .ok middle ∧ second.apply middle = .ok next) ∧
    Patch.apply [] document = .ok document ∧
    (∀ (messages : List Patch) next, Patch.apply messages.flatten document = .ok next ↔
      (∀ answer ∈ (Reconciler.mk (some document)).answers messages, answer.isOk) ∧
        (Reconciler.mk (some document)).follow messages = ⟨some next⟩) ∧
    (∀ (messages : List Patch) rejection, Patch.apply messages.flatten document = .error rejection →
      ∃ before failing after good own, messages = before ++ failing :: after ∧
        rejection = own.after before.flatten.length ∧ own.index < failing.length ∧
        Patch.apply before.flatten document = .ok good ∧
        (Reconciler.mk (some document)).follow before = ⟨some good⟩ ∧
        (Reconciler.mk (some good)).apply failing = (.error (.rejected own), ⟨some good⟩) ∧
        (Reconciler.mk (some document)).follow messages = (Reconciler.mk (some good)).follow after) := by
  refine ⟨fun _ _ _ => Patch.apply_append_eq_ok_iff, rfl, fun _ _ => flatten_apply_eq_ok_iff, ?_⟩
  intro messages rejection rejected
  obtain ⟨before, failing, after, good, own, rfl, reached, fails, rfl⟩ := exists_rejected_message rejected
  have followed := (flatten_apply_eq_ok_iff.mp reached).2
  have refused := apply_rejected fails
  refine ⟨before, failing, after, good, own, rfl, rfl, by simpa using Patch.index_lt_of_applyFrom fails,
    reached, followed, refused, ?_⟩
  calc (Reconciler.mk (some document)).follow (before ++ failing :: after)
    _ = (((Reconciler.mk (some document)).follow before).apply failing).2.follow after := by
      simp only [follow, List.foldl_append, List.foldl_cons]
    _ = (Reconciler.mk (some good)).follow after := by rw [followed, refused]

/-- The second of three messages moves an item away before it fails, and only the other two are taken. -/
theorem baseline_of_messages_rejected :
    let document := Json.object [("a", .array [.ofNat 1, .ofNat 2])]
    let first : Patch := [.add ⟨["a", "0"]⟩ (.ofNat 0)]
    let second : Patch := [.move ⟨["a", "0"]⟩ ⟨["b"]⟩, .copy ⟨["b"]⟩ ⟨["c"]⟩, .test ⟨["c"]⟩ (.ofNat 1)]
    let third : Patch := [.remove ⟨["a", "1"]⟩, .replace ⟨["a", "0"]⟩ .null]
    Patch.apply [first, second, third].flatten document = .error ⟨3, ⟨["c"]⟩, .mismatch⟩ ∧
      (Reconciler.mk (some document)).follow [first, second, third] =
        ⟨some (.object [("a", .array [.null, .ofNat 2])])⟩ := by
  intro document first second third
  have fails : Patch.apply [first, second, third].flatten document = .error ⟨3, ⟨["c"]⟩, .mismatch⟩ := by
    rfl
  refine ⟨fails, ?_⟩
  obtain ⟨-, -, -, rejected⟩ := baseline_of_messages document
  obtain ⟨before, failing, after, good, own, same, place, inside, reached, -, -, follows⟩ :=
    rejected _ _ fails
  have index : 3 = before.flatten.length + own.index := congrArg Patch.Rejection.index place
  -- the fourth operation is the third of the second message
  match before, same with
  | [], same =>
    cases same
    simp only [List.flatten_nil, List.length_nil, first, List.length_singleton] at index inside
    omega
  | [_], same =>
    cases same
    cases reached
    exact follows
  | _ :: _ :: others, same =>
    obtain ⟨isFirst, rest⟩ := List.cons.inj same
    obtain ⟨isSecond, -⟩ := List.cons.inj rest
    subst isFirst isSecond
    simp only [List.flatten_cons, List.length_append, first, second, List.length_cons] at index
    omega

end Reconciler
end ProxyWatch
