import ProxyWatch.Proofs.Document.Isolation
import ProxyWatch.Proofs.Stream.Samples

/-! What a patch of one connection leaves as it is in the view.

The samples that rates are made against are those of the document shown, so a connection whose record stays, and the
totals, show no traffic. The record without a name is apart: its samples make way for those of the totals. -/
namespace ProxyWatch
open SampleTable (records totalsKey)

variable {first second : Json} {id c : String} {old new : Json.Members}

theorem Json.DiffersAt.connection (differs : DiffersAt ["connections", c] first second)
    (object : first.member? "connections" = some (.object old)) :
    ∃ new, second.member? "connections" = some (.object new) ∧
      (∀ name, name ≠ "connections" → second.member? name = first.member? name) ∧
      ∀ id, id ≠ c → Dictionary.get? new id = Dictionary.get? old id := by
  cases differs with
  | within others found changed inner =>
    cases inner with
    | last beside =>
      cases found.symm.trans object
      exact ⟨_, changed, others, beside⟩
    | within beside foundInner changedInner deeper => cases deeper

private theorem Json.hasRoomFor_connection (object : first.member? "connections" = some (.object old)) (c : String) :
    HasRoomFor ["connections", c] first := by
  cases first with
  | object members => exact .within object (.last c old)
  | null | bool | number | string | array => cases object

theorem records_of_object (object : first.member? "connections" = some (.object old)) : records first = old := by
  simp [records, object, Json.members?]

theorem Sample.totals_of_same (same : ∀ name, name ≠ "connections" → second.member? name = first.member? name) :
    Sample.totals second = Sample.totals first := by
  rw [totals, totals, same "total_upload" (by decide), same "total_download" (by decide)]

theorem Rate.since_self (sample : Sample) : since (some sample) sample = zero := by
  simp [since, between, zero]

/-- A connection whose record stays shows no traffic. -/
theorem get?_sheet_of_same (ordered : first.IsOrdered) (nextOrdered : second.IsOrdered) (named : id ≠ totalsKey)
    (same : Dictionary.get? (records second) id = Dictionary.get? (records first) id) :
    ((SampleTable.ofDocument first).sheet second).get? id =
      (Dictionary.get? (records first) id).map fun _ => Rate.zero := by
  have rated := Dictionary.get?_map (records second) (fun id record =>
    Rate.since (Dictionary.get? (SampleTable.ofDocument first) id) (Sample.ofRecord record)) id
  rw [RateSheet.get?, connections_sheet _ nextOrdered, rated, same, get?_ofDocument ordered, keptSample?, if_neg named,
    connectionSample?]
  cases Dictionary.get? (records first) id with
  | none => rfl
  | some record => exact congrArg some (Rate.since_self _)

private theorem total_sheet_of_same (ordered : first.IsOrdered) (same : Sample.totals second = Sample.totals first) :
    ((SampleTable.ofDocument first).sheet second).total = (Sample.totals second).map fun _ => Rate.zero := by
  rw [SampleTable.sheet, get?_ofDocument ordered, keptSample?, if_pos rfl, same]
  cases Sample.totals first with
  | none => rfl
  | some counters => exact congrArg some (Rate.since_self counters)

namespace Stream.ConnectionFeed
variable {feed : ConnectionFeed} {callbacks : List Callback} {payload : String} {patch : Patch}

theorem documentAfter_of_apply (baseline : feed.reconciler.baseline = some first)
    (parsed : Message.parse? payload = some (.patch patch)) (applied : patch.apply first = .ok second) :
    feed.documentAfter payload = .ok (.patch patch, second) := by
  simp only [documentAfter, parsed, Reconciler.next, baseline, applied]

private theorem handle_of_apply (baseline : feed.reconciler.baseline = some first)
    (parsed : Message.parse? payload = some (.patch patch)) (applied : patch.apply first = .ok second) :
    (feed.handle payload).1 = .ok () := by
  simp only [handle, documentAfter_of_apply baseline parsed applied]

private theorem publishes_of_handle (baseline : feed.reconciler.baseline = some first)
    (parsed : Message.parse? payload = some (.patch patch)) (accepted : (feed.handle payload).1 = .ok ()) :
    ∃ second, patch.apply first = .ok second ∧ Publishes feed (feed.react (.message payload)).2 second := by
  cases applied : patch.apply first with
  | error rejection =>
    have failed : feed.documentAfter payload = .error (.patch (.rejected rejection)) := by
      simp only [documentAfter, parsed, Reconciler.next, baseline, applied]
    rw [handle, failed] at accepted
    cases accepted
  | ok second =>
    refine ⟨second, rfl, ?_⟩
    simp only [react, handle, documentAfter_of_apply baseline parsed applied]
    exact ⟨rfl, rfl, rfl, rfl, rfl⟩

/-- A patch at or below one connection, if it is accepted, leaves every other member of the document and every other
connection as it is. The other connections that have a name show no traffic then, and neither do the totals. -/
theorem patch_of_connection (callbacks : List Callback) (shown : (after callbacks).view.document = some first)
    (object : first.member? "connections" = some (.object old))
    (parsed : Message.parse? payload = some (.patch patch))
    (within : ∀ operation ∈ patch, ∀ path ∈ operation.places, Pointer.IsAtOrBelow ⟨["connections", c]⟩ path)
    (accepted : ((after callbacks).handle payload).1 = .ok ()) :
    let next := (after (callbacks ++ [.message payload])).view
    ∃ second new, next.document = some second ∧ second.member? "connections" = some (.object new) ∧
      (∀ name, name ≠ "connections" → second.member? name = first.member? name) ∧
      (∀ id, id ≠ c → Dictionary.get? new id = Dictionary.get? old id) ∧
      (∀ id, id ≠ c → id ≠ "" → next.rates.get? id = (Dictionary.get? old id).map fun _ => Rate.zero) ∧
      next.rates.total = (Sample.totals second).map (fun _ => Rate.zero) ∧
      next.updates = (after callbacks).view.updates + 1 := by
  intro next
  have known := reflects_after callbacks
  have sampled := isSampled_after callbacks
  obtain ⟨second, applied, published⟩ := publishes_of_handle (sampled.baseline.trans shown) parsed accepted
  rw [← after_concat] at published
  have differs := Patch.differsAt_of_apply (Json.hasRoomFor_connection object c)
    (fun operation member path among => Pointer.isAtOrBelow_iff.mp (within operation member path among)) applied
  obtain ⟨new, changed, members, others⟩ := differs.connection object
  have ordered := documentOf_isOrdered (known.document.symm.trans shown)
  have nextOrdered := Patch.isOrdered_of_apply (Message.isOrdered_of_parse? parsed) ordered applied
  have rates : next.rates = (SampleTable.ofDocument first).sheet second := by
    rw [published.rates, sampled.samples, shown]
    rfl
  refine ⟨second, new, published.document, changed, members, others, fun id other named => ?_, ?_,
    published.updates⟩
  · have same : Dictionary.get? (records second) id = Dictionary.get? (records first) id := by
      rw [records_of_object changed, records_of_object object, others id other]
    rw [rates, get?_sheet_of_same ordered nextOrdered named same, records_of_object object]
  · rw [rates, total_sheet_of_same ordered (Sample.totals_of_same members)]

/-- A patch that counts and moves within a connection whose name has a slash and a tilde. -/
theorem patch_of_connection_escaped :
    let old : Json.Members := [("a", .object [("upload", .ofNat 1)]), ("a/b~", .object [("up", .ofNat 2)])]
    let document : Json := .object [("connections", .object old), ("total_upload", .ofNat 5)]
    let patch : Patch := [.add ⟨["connections", "a/b~", "upload"]⟩ (.ofNat 7),
      .move ⟨["connections", "a/b~", "up"]⟩ ⟨["connections", "a/b~", "down"]⟩]
    let payload := (Message.patch patch).toText
    let callbacks : List Callback := [.opened, .message (Message.full document).toText]
    let next := (after (callbacks ++ [.message payload])).view
    ((after callbacks).view.document = some document ∧
      document.member? "connections" = some (.object old) ∧
      Message.parse? payload = some (.patch patch) ∧
      (∀ operation ∈ patch, ∀ path ∈ operation.places, Pointer.IsAtOrBelow ⟨["connections", "a/b~"]⟩ path) ∧
      ((after callbacks).handle payload).1 = .ok ()) ∧
      next.rates.get? "a" = some Rate.zero ∧ next.rates.total = some Rate.zero := by
  intro old document patch payload callbacks next
  have number (n : Nat) (small : n ≤ 10) (limit : Nat) : (Json.ofNat n).IsPlain limit := by
    have bounds : -Json.wholeLimit ≤ 0 ∧ (10 : Int) ≤ Json.counterLimit := by decide
    exact .number (.integer (by omega) (by omega))
  have sent : (Message.full document).Sendable := by
    refine ⟨Json.isOrdered_of_value? 4 (Json.Source.ofJson document) document rfl, ?_⟩
    change document.IsPlain 126
    simp [document, old, number]
  have followed : (Message.patch patch).Sendable := by
    have first : (Operation.add ⟨["connections", "a/b~", "upload"]⟩ (.ofNat 7)).HasRoom 125 := by
      refine ⟨124, rfl, ?_⟩
      rintro _ ⟨⟩
      exact ⟨.number _, number 7 (by decide) 124⟩
    have second : (Operation.move ⟨["connections", "a/b~", "up"]⟩ ⟨["connections", "a/b~", "down"]⟩).HasRoom 125 :=
      ⟨124, rfl, nofun⟩
    exact List.forall_mem_cons.mpr ⟨first, List.forall_mem_singleton.mpr second⟩
  have parsed : Message.parse? payload = some (.patch patch) := followed.parse?_toText
  have within : ∀ operation ∈ patch, ∀ path ∈ operation.places,
      Pointer.IsAtOrBelow ⟨["connections", "a/b~"]⟩ path := by
    simp only [Pointer.isAtOrBelow_iff]
    decide
  have shown : (after callbacks).view.document = some document := by
    rw [(reflects_after callbacks).document]
    exact documentOf_append_snapshot [] (snapshot?_full sent.parse?_toText)
  have applies : (patch.apply document).toOption.isSome = true := by decide +kernel
  obtain ⟨reached, applied⟩ := Option.isSome_iff_exists.mp applies
  have accepted : ((after callbacks).handle payload).1 = .ok () :=
    handle_of_apply ((isSampled_after callbacks).baseline.trans shown) parsed (toOption_eq_some_iff.mp applied)
  obtain ⟨second, new, -, -, members, -, rates, total, -⟩ :=
    patch_of_connection callbacks shown rfl parsed within accepted
  have still := rates "a" (by decide) (by decide)
  have counted : Sample.totals document = some ⟨5, 0⟩ := by decide +kernel
  rw [Sample.totals_of_same members, counted] at total
  have same : next = (after (callbacks ++ [.message payload])).view := rfl
  rw [← same] at still total
  exact ⟨⟨shown, rfl, parsed, within, accepted⟩, still, total⟩

end Stream.ConnectionFeed
end ProxyWatch
