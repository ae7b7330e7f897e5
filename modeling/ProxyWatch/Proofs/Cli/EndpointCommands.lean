import ProxyWatch.Cli.Endpoints
import ProxyWatch.Proofs.Endpoint.Saved
import ProxyWatch.Proofs.Url.Domains

/-! Commands on the stored list of endpoints, one after the other: what a command leaves in the store,
and what the next one loads from it. -/
namespace ProxyWatch.Cli
open Registry (storeKey)

namespace EndpointCommand
variable [Url.Idna] {registry produced : Registry} {stamp id : String} {failure : Failure}

/-- How a command fails on a list. -/
def Fails (registry : Registry) : EndpointCommand → Failure → Prop
  | list, _ => False
  | add _ url, failure => Url.parse? url = none ∧ failure = .invalidUrl url
  | remove id, failure | use id, failure =>
    id ∉ registry.ids ∧ failure = .store (.unknownEndpoint id)

/-- The list that a command makes of a list, and saves. -/
def Produces (registry : Registry) (stamp : String) (command : EndpointCommand)
    (produced : Registry) : Prop :=
  ∃ lines, command.apply registry stamp = .ok (lines, some produced)

theorem apply_eq_error_iff (stamp : String) (command : EndpointCommand) :
    command.apply registry stamp = .error failure ↔ command.Fails registry failure := by
  cases command with
  | list => simp [apply, Fails]
  | add name url =>
    simp only [apply, Fails, Option.isNone_iff_eq_none]
    split
    · rename_i unparsed
      rw [Except.error.injEq, eq_comm (a := Failure.invalidUrl url)]
      exact ⟨fun same => ⟨unparsed, same⟩, And.right⟩
    · rename_i parsed
      exact ⟨nofun, fun fails => absurd fails.1 parsed⟩
  | remove id =>
    simp only [apply, Fails, Registry.remove, ← Registry.get?_eq_none_iff]
    cases found : registry.get? id with
    | none => simp [eq_comm]
    | some endpoint => simp
  | use id =>
    simp only [apply, Fails, Registry.setActive, ← Registry.get?_eq_none_iff]
    cases found : registry.get? id with
    | none => simp [eq_comm]
    | some endpoint => simp

private theorem produces_add {name url : String} (parsed : Url.parse? url ≠ none) :
    (add name url).Produces registry stamp (registry.add stamp name url).2 :=
  ⟨_, if_neg fun unparsed => parsed (Option.isNone_iff_eq_none.mp unparsed)⟩

private theorem produces_remove {removed : Endpoint} (removal : registry.remove id = .ok (removed, produced)) :
    (remove id).Produces registry stamp produced :=
  ⟨_, by rw [apply, removal]⟩

private theorem produces_use (chosen : registry.setActive id = .ok produced) :
    (use id).Produces registry stamp produced :=
  ⟨_, by rw [apply, chosen]⟩

end EndpointCommand

namespace World
variable {σ : Type}

/-- An outside whose directory is a store, which changes only when a value is saved. -/
structure Keeps (world : World (StateM σ)) (directory : String) (store : σ → Store) : Prop where
  loaded (key : String) (s : σ) : ((world.loadValue directory key).run s).1 = (store s).load key
  load (key : String) (s : σ) : store ((world.loadValue directory key).run s).2 = store s
  saved (key : String) (value : Json) (s : σ) :
    ((world.saveValue directory key value).run s).1 = ((store s).save key value).1
  save (key : String) (value : Json) (s : σ) :
    store ((world.saveValue directory key value).run s).2 = ((store s).save key value).2
  stamp (s : σ) : store (world.stamp.run s).2 = store s
  print (line : String) (s : σ) : store ((world.print line).run s).2 = store s

/-- The list that a command loads. -/
def listAt (world : World (StateM σ)) (directory : String) (s : σ) : Registry :=
  ((world.registry directory).run s).1

/-- The stamp that a command takes, and what the outside is like when it has taken it. -/
def stampAt [Url.Idna] (world : World (StateM σ)) (directory : String) (command : EndpointCommand) (s : σ) :
    String × σ :=
  (if command.makesId then world.stamp else pure "").run ((world.registry directory).run s).2

/-- What the outside is like after some commands. -/
def after [Url.Idna] (world : World (StateM σ)) (directory : String) (start : σ)
    (commands : List EndpointCommand) : σ :=
  commands.foldl (fun s command => ((world.endpoints directory command).run s).2) start

/-- Prints what a command prints, and saves the list that it produces. -/
def conclude (world : World (StateM σ)) (directory : String) :
    Except Failure (List String × Option Registry) → StateM σ (Except Failure Unit)
  | .error failure => pure (.error failure)
  | .ok (lines, changed) => do
    lines.forM world.print
    match changed with
    | none => pure (.ok ())
    | some registry =>
      pure ((← world.saveValue directory storeKey registry.toValue).mapError .store)

private theorem run_endpoints [Url.Idna] (world : World (StateM σ)) (directory : String) (command : EndpointCommand)
    (s : σ) :
    (world.endpoints directory command).run s =
      (world.conclude directory (command.apply (world.listAt directory s)
        (world.stampAt directory command s).1)).run (world.stampAt directory command s).2 := by
  unfold World.endpoints stampAt listAt
  cases command.makesId <;> rfl

variable {world : World (StateM σ)} {directory : String} {store : σ → Store} {s : σ}
  {command : EndpointCommand}

theorem Keeps.listAt (keeps : world.Keeps directory store) (s : σ) :
    world.listAt directory s = Registry.load (store s) :=
  congrArg Registry.ofAnswer (keeps.loaded storeKey s)

theorem Keeps.stampAt [Url.Idna] (keeps : world.Keeps directory store) (command : EndpointCommand) (s : σ) :
    store (world.stampAt directory command s).2 = store s := by
  have kept : store ((world.registry directory).run s).2 = store s := keeps.load storeKey s
  unfold World.stampAt
  split
  · exact (keeps.stamp _).trans kept
  · exact kept

theorem Keeps.printed (keeps : world.Keeps directory store) (lines : List String) (s : σ) :
    store ((lines.forM world.print).run s).2 = store s := by
  induction lines generalizing s with
  | nil => rfl
  | cons line rest ih => exact (ih _).trans (keeps.print line s)

/-- A failure saves nothing, and so does a command that produces no list. -/
theorem Keeps.conclude (keeps : world.Keeps directory store) (s : σ)
    (outcome : Except Failure (List String × Option Registry)) :
    let run := (world.conclude directory outcome).run s
    match outcome with
    | .error failure => run.1 = .error failure ∧ store run.2 = store s
    | .ok (_, none) => run.1 = .ok () ∧ store run.2 = store s
    | .ok (_, some produced) =>
      run.1 = (produced.save (store s)).1.mapError .store ∧
        store run.2 = (produced.save (store s)).2 := by
  rcases outcome with failure | ⟨lines, _ | produced⟩
  · exact ⟨rfl, rfl⟩
  · exact ⟨rfl, keeps.printed lines s⟩
  · have printed := keeps.printed lines s
    have saved := keeps.saved storeKey produced.toValue ((lines.forM world.print).run s).2
    have save := keeps.save storeKey produced.toValue ((lines.forM world.print).run s).2
    rw [printed] at saved save
    exact ⟨congrArg (Except.mapError Failure.store) saved, save⟩

theorem Keeps.endpoints [Url.Idna] (keeps : world.Keeps directory store) (command : EndpointCommand) (s : σ) :
    let run := (world.endpoints directory command).run s
    match command.apply (world.listAt directory s) (world.stampAt directory command s).1 with
    | .error failure => run.1 = .error failure ∧ store run.2 = store s
    | .ok (_, none) => run.1 = .ok () ∧ store run.2 = store s
    | .ok (_, some produced) =>
      run.1 = (produced.save (store s)).1.mapError .store ∧
        store run.2 = (produced.save (store s)).2 := by
  have concluded := keeps.conclude (world.stampAt directory command s).2
    (command.apply (world.listAt directory s) (world.stampAt directory command s).1)
  rwa [keeps.stampAt, ← run_endpoints] at concluded

/-- A command fails just as it fails on the list that it loads, where that list can be saved. -/
theorem Keeps.failed_iff [Url.Idna] (keeps : world.Keeps directory store) (writable : (store s).IsWritable)
    {failure : Failure} :
    ((world.endpoints directory command).run s).1 = .error failure ↔
      command.Fails (world.listAt directory s) failure := by
  have done := keeps.endpoints command s
  rw [← EndpointCommand.apply_eq_error_iff (world.stampAt directory command s).1]
  dsimp only at done
  split at done
  · rename_i applied
    rw [done.1, applied, Except.error.injEq, Except.error.injEq]
  · rename_i applied
    simp [done.1, applied]
  · rename_i produced applied
    have saved : ((world.endpoints directory command).run s).1 = .ok () := by
      rw [done.1, Registry.save, writable]
      rfl
    simp [saved, applied]

private theorem Keeps.unchanged_of_fails [Url.Idna] (keeps : world.Keeps directory store) {failure : Failure}
    (fails : command.Fails (world.listAt directory s) failure) :
    store ((world.endpoints directory command).run s).2 = store s := by
  have done := keeps.endpoints command s
  rw [(EndpointCommand.apply_eq_error_iff _ command).mpr fails] at done
  exact done.2

/-- What the next command loads of the list that is saved. -/
theorem Keeps.listAt_next [Url.Idna] (keeps : world.Keeps directory store) (writable : (store s).IsWritable)
    {produced : Registry}
    (produces : command.Produces (world.listAt directory s) (world.stampAt directory command s).1 produced) :
    world.listAt directory ((world.endpoints directory command).run s).2 =
      if produced.endpoints = [] then .default else .ofList produced.endpoints := by
  obtain ⟨lines, applied⟩ := produces
  have done := keeps.endpoints command s
  simp only [applied] at done
  rw [keeps.listAt, done.2]
  exact Registry.load_save writable

theorem Keeps.listAt_single (keeps : world.Keeps directory store) (s : σ) :
    (world.listAt directory s).activeIds.length ≤ 1 := by
  rw [keeps.listAt]
  exact (Registry.Obtained.loaded _).single_active

theorem Keeps.not_fails_of_done [Url.Idna] (keeps : world.Keeps directory store)
    (writable : (store s).IsWritable) (done : ((world.endpoints directory command).run s).1 = .ok ()) :
    ∀ failure, ¬ command.Fails (world.listAt directory s) failure := by
  intro failure fails
  cases ((keeps.failed_iff writable).mpr fails).symm.trans done

private theorem Keeps.listAt_add [Url.Idna] (keeps : world.Keeps directory store) (writable : (store s).IsWritable)
    {name url : String} (done : ((world.endpoints directory (.add name url)).run s).1 = .ok ()) :
    let stamp := (world.stampAt directory (.add name url) s).1
    world.listAt directory ((world.endpoints directory (.add name url)).run s).2 =
      ((world.listAt directory s).add stamp name url).2 := by
  intro stamp
  have parsed : Url.parse? url ≠ none := fun unparsed =>
    keeps.not_fails_of_done writable done _ ⟨unparsed, rfl⟩
  have single := keeps.listAt_single s
  rw [← Registry.activeIds_add _ stamp name url] at single
  rw [keeps.listAt_next writable (EndpointCommand.produces_add parsed), if_neg]
  · exact Registry.ofList_of_single single
  · simp [Registry.add]

private theorem Keeps.listAt_remove [Url.Idna] (keeps : world.Keeps directory store) (writable : (store s).IsWritable)
    {id : String} (done : ((world.endpoints directory (.remove id)).run s).1 = .ok ()) :
    ∃ removed produced, (world.listAt directory s).remove id = .ok (removed, produced) ∧
      ((world.listAt directory s).ids.count id = 1 → id ∉ produced.ids) ∧
      world.listAt directory ((world.endpoints directory (.remove id)).run s).2 =
        if produced.endpoints = [] then .default else produced := by
  have known : id ∈ (world.listAt directory s).ids := Classical.byContradiction fun absent =>
    keeps.not_fails_of_done writable done _ ⟨absent, rfl⟩
  obtain ⟨removed, removal⟩ := Registry.remove_of_mem known
  have single := Nat.le_trans (Registry.activeIds_eraseP _ id).length_le (keeps.listAt_single s)
  have loaded := keeps.listAt_next writable (EndpointCommand.produces_remove removal)
  rw [Registry.ofList_of_single single] at loaded
  exact ⟨removed, _, removal, Registry.not_mem_ids_eraseP, loaded⟩

private theorem Keeps.listAt_use [Url.Idna] (keeps : world.Keeps directory store) (writable : (store s).IsWritable)
    {id : String} (done : ((world.endpoints directory (.use id)).run s).1 = .ok ()) :
    let loaded := world.listAt directory ((world.endpoints directory (.use id)).run s).2
    ∃ produced, (world.listAt directory s).setActive id = .ok produced ∧ loaded = .ofList produced.endpoints ∧
      loaded.activeIds = [id] ∧ ((world.listAt directory s).ids.count id = 1 → loaded = produced) := by
  intro loaded
  have known : id ∈ (world.listAt directory s).ids := Classical.byContradiction fun absent =>
    keeps.not_fails_of_done writable done _ ⟨absent, rfl⟩
  have chosen : (world.listAt directory s).setActive id = .ok _ := Registry.edit_setActive known
  have active := Registry.activeIds_setActive (world.listAt directory s) id
  have held : ((world.listAt directory s).endpoints) ≠ [] := by
    intro empty
    simp [Registry.ids, empty] at known
  have same : loaded = .ofList _ := (keeps.listAt_next writable (EndpointCommand.produces_use chosen)).trans
    (if_neg (by simp [Registry.Edit.onEndpoints, held]))
  refine ⟨_, chosen, same, ?_, fun alone => ?_⟩
  · have first : min 1 ((world.listAt directory s).ids.count id) = 1 := Nat.min_eq_left (List.count_pos_iff.mpr known)
    rw [same, Registry.activeIds_ofList, active, List.take_replicate, first, List.replicate_one]
  · exact same.trans (Registry.ofList_of_single (by simp [active, alone]))

/-- A store that the list can be saved to stays one. -/
theorem Keeps.writable [Url.Idna] (keeps : world.Keeps directory store) (writable : (store s).IsWritable)
    (command : EndpointCommand) : (store ((world.endpoints directory command).run s).2).IsWritable := by
  have done := keeps.endpoints command s
  dsimp only at done
  split at done
  · rwa [done.2]
  · rwa [done.2]
  · rw [done.2]
    exact writable.save _

private theorem Keeps.writable_after [Url.Idna] (keeps : world.Keeps directory store) (writable : (store s).IsWritable)
    (commands : List EndpointCommand) : (store (world.after directory s commands)).IsWritable := by
  induction commands generalizing s with
  | nil => exact writable
  | cons command rest ih => exact ih (keeps.writable writable command)

/-- After any commands, from any store that the list can be saved to: a command that fails leaves the
store as it was, and so does one that lists. What any other command produces is what the next one
loads: an added endpoint is there under an id of its own, an endpoint that was alone under its id is
gone once it is removed, and an id that is used is the active one, of its first endpoint if it is repeated.
When the last endpoint is removed, the next command loads the default list. -/
theorem listAt_after [Url.Idna] (keeps : world.Keeps directory store) (writable : (store s).IsWritable)
    (earlier : List EndpointCommand) (command : EndpointCommand) :
    let before := world.after directory s earlier
    let registry := world.listAt directory before
    let result := ((world.endpoints directory command).run before).1
    let next := ((world.endpoints directory command).run before).2
    let loaded := world.listAt directory next
    (∀ failure, result = .error failure ↔ command.Fails registry failure) ∧
    (∀ failure, result = .error failure → store next = store before) ∧
    (command = .list → result = .ok () ∧ store next = store before) ∧
    (∀ name url, command = .add name url → result = .ok () →
      let stamp := (world.stampAt directory command before).1
      let added : Endpoint := { id := registry.freshId stamp, name, url }
      loaded = (registry.add stamp name url).2 ∧ added ∈ loaded.endpoints ∧ added.id ∉ registry.ids) ∧
    (∀ id, command = .remove id → result = .ok () → ∃ removed produced,
      registry.remove id = .ok (removed, produced) ∧
      (registry.ids.count id = 1 → id ∉ produced.ids) ∧
      loaded = if produced.endpoints = [] then .default else produced) ∧
    (∀ id, command = .use id → result = .ok () → ∃ produced, registry.setActive id = .ok produced ∧
      loaded = .ofList produced.endpoints ∧ loaded.activeIds = [id] ∧
      (registry.ids.count id = 1 → loaded = produced)) := by
  intro before registry result next loaded
  have writable := keeps.writable_after writable earlier
  refine ⟨fun failure => keeps.failed_iff writable, ?_, ?_, ?_, ?_, ?_⟩
  · intro failure failed
    exact keeps.unchanged_of_fails ((keeps.failed_iff writable).mp failed)
  · rintro rfl
    exact keeps.endpoints .list before
  · rintro name url rfl done stamp added
    have same : loaded = (registry.add stamp name url).2 := keeps.listAt_add writable done
    have present : added ∈ (registry.add stamp name url).2.endpoints :=
      List.mem_append_right _ List.mem_cons_self
    exact ⟨same, same ▸ present, Registry.freshId_not_mem registry stamp⟩
  · rintro id rfl done
    exact keeps.listAt_remove writable done
  · rintro id rfl done
    exact keeps.listAt_use writable done

/-- An outside that has a store and nothing else. -/
def ofStore (stamp : String) : World (StateM Store) where
  environment := pure []
  readText _ := pure none
  loadValue _ key := do pure ((← get).load key)
  saveValue _ key value := modifyGet (·.save key value)
  stamp := pure stamp
  now := pure 0
  print _ := pure ()
  complain _ := pure ()
  exchange _ _ := pure []
  dial _ := pure .stop
  receive := pure .stop
  hasArrived := pure false
  sleep _ := pure .stop
  loop _ start := pure start

private theorem keeps_ofStore (stamp directory : String) : (ofStore stamp).Keeps directory id where
  loaded _ _ := rfl
  load _ _ := rfl
  saved _ _ _ := rfl
  save _ _ _ := rfl
  stamp _ := rfl
  print _ _ := rfl

/-- A list that cannot be read stays until a command saves another. -/
theorem listAt_after_unreadable :
    let world := ofStore "7"
    let start : Store := .files (.directory [("rdp-instances.json", .file "[\"")])
    let before := world.after "" start [.remove "x", .list]
    let run := (world.endpoints "" (.add "Lab" "http://lab:8030")).run before
    start.IsWritable ∧ run.1 = .ok () ∧
      (world.listAt "" run.2).endpoints = [.default, ⟨"7", "Lab", "http://lab:8030", false⟩] := by
  intro world start before run
  have writable : start.IsWritable := Store.isWritable_files.mpr ⟨nofun, by decide, by decide⟩
  have done : run.1 = .ok () := by decide +kernel
  have following := listAt_after (keeps_ofStore "7" "") writable [.remove "x", .list]
    (.add "Lab" "http://lab:8030")
  obtain ⟨loaded, -, -⟩ := following.2.2.2.1 "Lab" "http://lab:8030" rfl done
  have added : ((world.listAt "" before).add "7" "Lab" "http://lab:8030").2.endpoints =
      [.default, ⟨"7", "Lab", "http://lab:8030", false⟩] := by decide +kernel
  exact ⟨writable, done, (congrArg Registry.endpoints loaded).trans added⟩

/-- The last endpoint is removed, and the next command finds it again. -/
theorem remove_last_returns :
    let world := ofStore "7"
    let start : Store := .files .absent
    let run := (world.endpoints "" (.remove "local")).run start
    start.IsWritable ∧ run.1 = .ok () ∧
      (∃ removed, (world.listAt "" start).remove "local" = .ok (removed, ⟨[]⟩)) ∧
      world.listAt "" run.2 ≠ ⟨[]⟩ ∧ "local" ∈ (world.listAt "" run.2).ids := by
  exact ⟨Store.isWritable_files.mpr ⟨nofun, by decide, by decide⟩, by decide +kernel,
    ⟨.default, by decide +kernel⟩, by decide +kernel, by decide +kernel⟩

end World
end ProxyWatch.Cli
