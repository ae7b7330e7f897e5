import Mathlib.Data.List.ModifyLast
import ProxyWatch.Proofs.Api.Resources
import ProxyWatch.Proofs.Stream.Addresses
import ProxyWatch.Proofs.Stream.Interleaving
import ProxyWatch.Session

/-! What opening a session brings about besides its result, told in its order.

A driver's task is spawned as the last step of opening its stream. Where the log stream is not opened after that, the
stream of the connections is dropped again, whatever its driver has done by then. -/
namespace ProxyWatch.Session
open ProxyWatch.Stream

/-- The task of a stream's driver, with the address that it connects to. -/
structure Task where
  address : Url
  run : Run
  deriving Repr

/-- A task whose stream is dropped after some moves of its driver. -/
def Task.dropped (meanwhile : List Move) (task : Task) : Task :=
  { task with run := ((task.run.follow meanwhile).getD task.run).close }

/-- The connects that tasks make up to an instant. -/
def connects (limit : Nat) (tasks : List Task) : List (Url × Nat) :=
  tasks.flatMap fun task => (task.run.runTo limit).dials.map (task.address, ·)

/-- Steps that spawn tasks. A failure does not take back what was spawned before it. -/
abbrev Opening := ExceptT (Fault SessionError) (StateM (List Task))

namespace Opening
variable {α β Feed : Type}

/-- A step that spawns nothing. -/
def check (attempt : Except (Fault SessionError) α) : Opening α := ExceptT.mk (pure attempt)

/-- Spawns the driver of a stream that is made. -/
def stream (made : Except (Fault SessionError) (Live Feed)) : Opening (Live Feed) := do
  let live ← check made
  modify (· ++ [⟨live.address, live.run⟩])
  pure live

/-- Drops the stream opened last if a step fails. -/
def orDrop (meanwhile : List Move) (step : Opening α) : Opening α :=
  tryCatch step fun fault => do
    modify (·.modifyLast (Task.dropped meanwhile))
    throw fault

/-- The result of some steps, and the tasks there are after them. -/
def outcome (opening : Opening α) (tasks : List Task) : Except (Fault SessionError) α × List Task :=
  opening.run.run tasks

theorem outcome_bind (opening : Opening α) (next : α → Opening β) (tasks : List Task) :
    (opening >>= next).outcome tasks = match opening.outcome tasks with
      | (.ok value, tasks) => (next value).outcome tasks
      | (.error fault, tasks) => (.error fault, tasks) := by
  unfold outcome ExceptT.run StateT.run
  simp only [bind, ExceptT.bind, ExceptT.mk, StateT.bind, ExceptT.bindCont]
  cases opening tasks with
  | mk result tasks => cases result <;> rfl

theorem outcome_check (attempt : Except (Fault SessionError) α) (tasks : List Task) :
    (check attempt).outcome tasks = (attempt, tasks) := rfl

private theorem outcome_pure (value : α) (tasks : List Task) :
    (pure value : Opening α).outcome tasks = (.ok value, tasks) := rfl

/-- A stream that opens leaves its own task, and one that does not leaves none. -/
theorem outcome_stream (made : Except (Fault SessionError) (Live Feed)) (tasks : List Task) :
    (stream made).outcome tasks = match made with
      | .ok live => (.ok live, tasks ++ [⟨live.address, live.run⟩])
      | .error fault => (.error fault, tasks) := by
  rw [stream, outcome_bind, outcome_check]
  cases made <;> rfl

theorem outcome_orDrop (meanwhile : List Move) (step : Opening α) (tasks : List Task) :
    (orDrop meanwhile step).outcome tasks = match step.outcome tasks with
      | (.ok value, tasks) => (.ok value, tasks)
      | (.error fault, tasks) => (.error fault, tasks.modifyLast (Task.dropped meanwhile)) := by
  unfold orDrop outcome ExceptT.run StateT.run
  simp only [tryCatch, tryCatchThe, MonadExceptOf.tryCatch, ExceptT.tryCatch, ExceptT.mk, bind, StateT.bind]
  cases step tasks with
  | mk result tasks => cases result <;> rfl

end Opening

/-- Opens a session over scripted connections, step by step. -/
def opening [Url.Idna] (endpoint : Endpoint) (settings : Settings) (connections logs : List Script)
    (meanwhile : List Move) : Opening Session := do
  let client ← Opening.check ((Api.Client.forEndpoint endpoint.url).mapError (.error ∘ .request))
  let policy := settings.reconnectPolicy
  let connections ← Opening.stream
    ((ConnectionStream.openAt endpoint.url false policy connections).mapError (.error ∘ .stream))
  let logs ← Opening.orDrop meanwhile (Opening.stream
    ((LogStream.openAt endpoint.url settings.logCapacity policy logs).mapError (·.map .stream)))
  pure { endpoint, client, connections, logs }

/-- Step by step, a session opens with the result that it has as a whole. -/
theorem outcome_opening_fst [Url.Idna] (endpoint : Endpoint) (settings : Settings) (connections logs : List Script)
    (meanwhile : List Move) (tasks : List Task) :
    ((opening endpoint settings connections logs meanwhile).outcome tasks).1 =
      openWith endpoint settings connections logs := by
  unfold opening openWith
  rw [Opening.outcome_bind, Opening.outcome_check]
  cases (Api.Client.forEndpoint endpoint.url).mapError _ with
  | error fault => rfl
  | ok client =>
    dsimp only
    rw [Opening.outcome_bind, Opening.outcome_stream]
    cases (ConnectionStream.openAt endpoint.url false settings.reconnectPolicy connections).mapError _ with
    | error fault => rfl
    | ok connections =>
      dsimp only
      rw [Opening.outcome_bind, Opening.outcome_orDrop, Opening.outcome_stream]
      cases (LogStream.openAt endpoint.url settings.logCapacity settings.reconnectPolicy logs).mapError _ <;> rfl

/-- A session that watches a url: its client and both streams are at the url's own place, and each stream has the task
of a driver that begins. -/
structure IsOpened (url : Url) (settings : Settings) (connections logs : List Script) (session : Session)
    (tasks : List Task) : Prop where
  client : session.client.base = url
  hosted : ∃ host, url.host = some host
  address : IsStreamOf url "connection" session.connections.address
  logAddress : IsStreamOf url "log" session.logs.address
  feeds : session.connections.feed = {} ∧ session.logs.feed = LogFeed.empty settings.logCapacity
  runs : session.connections.run = .start settings.reconnectPolicy connections ∧
    session.logs.run = .start settings.reconnectPolicy logs
  tasks : tasks = [⟨session.connections.address, session.connections.run⟩, ⟨session.logs.address, session.logs.run⟩]

section Endpoints
variable {endpoint : Endpoint} {url : Url} (settings : Settings) (connections logs : List Script)
  (meanwhile : List Move)

private theorem outcome_opening_of_other [Url.Idna]
    (other : ¬ ∃ url, Url.parse? endpoint.url = some url ∧ url.scheme ∈ webSchemes) (before : List Task) :
    ∃ error, (opening endpoint settings connections logs meanwhile).outcome before =
      (.error (.error error), before) := by
  have missing : address? endpoint.url "connection" = none :=
    Option.eq_none_iff_forall_ne_some.mpr fun address made => other (parse?_of_address? made)
  have failed : connectionAddress endpoint.url false = .error (.invalidUrl endpoint.url) := by
    rw [connectionAddress, address, missing]
    rfl
  rw [opening, Opening.outcome_bind, Opening.outcome_check]
  cases Api.Client.forEndpoint endpoint.url with
  | error error => exact ⟨_, rfl⟩
  | ok client =>
    refine ⟨.stream (.invalidUrl endpoint.url), ?_⟩
    simp only [mapError_ok, Opening.outcome_bind, Opening.outcome_stream, ConnectionStream.openAt, failed]
    rfl

/-- With one, neither the client nor an address can fail; only the buffer of the log can. -/
theorem outcome_opening_of_web [Url.Idna] (read : Url.parse? endpoint.url = some url) (web : url.scheme ∈ webSchemes)
    (before : List Task) :
    (EventBuffer.HasRoom settings.logCapacity → ∃ session spawned,
      (opening endpoint settings connections logs meanwhile).outcome before = (.ok session, before ++ spawned) ∧
        session.endpoint = endpoint ∧ IsOpened url settings connections logs session spawned) ∧
    (¬ EventBuffer.HasRoom settings.logCapacity → ∃ first : Task,
      (opening endpoint settings connections logs meanwhile).outcome before =
        (.error .panic, before ++ [first.dropped meanwhile]) ∧
        IsStreamOf url "connection" first.address ∧ first.run = .start settings.reconnectPolicy connections) := by
  obtain ⟨hosted, path, based⟩ := isHosted_of_web read web
  have client := Api.Client.forEndpoint_of_parse? read (by rw [Url.isBase, based])
  obtain ⟨first, firstMade, first_, -⟩ := isStreamOf_of_parse read web (show Url.IsWord "connection" by decide)
  obtain ⟨second, secondMade, second_, -⟩ := isStreamOf_of_parse read web (show Url.IsWord "log" by decide)
  have patched : connectionAddress endpoint.url false = .ok (first.appendPair "patch" "true") := by
    rw [connectionAddress, address, firstMade]
    rfl
  have plain : logAddress endpoint.url = .ok second := by
    rw [logAddress, address, secondMade]
  let watching : ConnectionStream :=
    ⟨first.appendPair "patch" "true", .start settings.reconnectPolicy connections, {}⟩
  have opened : ConnectionStream.openAt endpoint.url false settings.reconnectPolicy connections = .ok watching := by
    rw [ConnectionStream.openAt, patched]
    rfl
  constructor
  · intro room
    let logging : LogStream := ⟨second, .start settings.reconnectPolicy logs, .empty settings.logCapacity⟩
    have made : LogStream.openAt endpoint.url settings.logCapacity settings.reconnectPolicy logs = .ok logging := by
      rw [LogStream.openAt, plain, LogFeed.withCapacity?, EventBuffer.withCapacity?, if_pos room]
      rfl
    refine ⟨⟨endpoint, ⟨url⟩, watching, logging⟩, _, ?_, rfl, rfl, hosted, first_.appendPair "patch" "true", second_,
      ⟨rfl, rfl⟩, ⟨rfl, rfl⟩, rfl⟩
    simp only [opening, Opening.outcome_bind, Opening.outcome_check, client, mapError_ok, Opening.outcome_stream,
      Opening.outcome_orDrop, Opening.outcome_pure, opened, made, List.append_assoc]
    rfl
  · intro full
    have panics : LogStream.openAt endpoint.url settings.logCapacity settings.reconnectPolicy logs = .error .panic := by
      rw [LogStream.openAt, plain, LogFeed.withCapacity?, EventBuffer.withCapacity?, if_neg full]
      rfl
    refine ⟨⟨watching.address, watching.run⟩, ?_, first_.appendPair "patch" "true", rfl⟩
    simp only [opening, Opening.outcome_bind, Opening.outcome_check, client, mapError_ok, Opening.outcome_stream,
      Opening.outcome_orDrop, opened, panics]
    exact congrArg (Except.error Fault.panic, ·) (List.modifyLast_concat ..)

end Endpoints

/-- Opening a session, whatever the endpoint, the settings and the connections are. It succeeds exactly for the urls of
the web and the capacities that there is room for, and then both streams are opened at the url's place. An error is
told for the other urls alone, and then nothing was spawned, so nothing ever connects. Without room it is too late for
an error: the driver of the connections has been spawned, and all that is done about it is to drop its stream. -/
theorem session_of_opening [Url.Idna] (endpoint : Endpoint) (settings : Settings) (connections logs : List Script)
    (meanwhile : List Move) (before : List Task) : ∃ result after,
      (opening endpoint settings connections logs meanwhile).outcome before = (result, after) ∧
        result = openWith endpoint settings connections logs ∧
        ((∃ session, result = .ok session) ↔ EventBuffer.HasRoom settings.logCapacity ∧
          ∃ url, Url.parse? endpoint.url = some url ∧ url.scheme ∈ ["http", "https", "ws", "wss"]) ∧
        ((∃ error, result = .error (.error error)) ↔
          ¬ ∃ url, Url.parse? endpoint.url = some url ∧ url.scheme ∈ ["http", "https", "ws", "wss"]) ∧
        match result with
        | .ok session => session.endpoint = endpoint ∧ ∃ url spawned, Url.parse? endpoint.url = some url ∧
            IsOpened url settings connections logs session spawned ∧ after = before ++ spawned
        | .error (.error _) => after = before ∧ ∀ limit, connects limit after = connects limit before
        | .error .panic => ∃ url, ∃ first : Task, Url.parse? endpoint.url = some url ∧
            IsStreamOf url "connection" first.address ∧ first.run = .start settings.reconnectPolicy connections ∧
            after = before ++ [first.dropped meanwhile] := by
  have same := outcome_opening_fst endpoint settings connections logs meanwhile before
  by_cases web : ∃ url, Url.parse? endpoint.url = some url ∧ url.scheme ∈ webSchemes
  · obtain ⟨url, read, scheme⟩ := web
    obtain ⟨roomy, full⟩ := outcome_opening_of_web settings connections logs meanwhile read scheme before
    by_cases room : EventBuffer.HasRoom settings.logCapacity
    · obtain ⟨session, spawned, opened, named, known⟩ := roomy room
      rw [opened] at same
      refine ⟨_, _, opened, same, ⟨fun _ => ⟨room, url, read, scheme⟩, fun _ => ⟨session, rfl⟩⟩, ⟨?_, ?_⟩,
        named, url, spawned, read, known, rfl⟩
      · rintro ⟨error, failed⟩
        cases failed
      · exact fun other => absurd ⟨url, read, scheme⟩ other
    · obtain ⟨first, panics, placed, begun⟩ := full room
      rw [panics] at same
      refine ⟨_, _, panics, same, ⟨?_, fun roomy => absurd roomy.1 room⟩, ⟨?_, ?_⟩,
        url, first, read, placed, begun, rfl⟩
      · rintro ⟨session, opened⟩
        cases opened
      · rintro ⟨error, failed⟩
        cases failed
      · exact fun other => absurd ⟨url, read, scheme⟩ other
  · obtain ⟨error, failed⟩ := outcome_opening_of_other settings connections logs meanwhile web before
    rw [failed] at same
    refine ⟨_, _, failed, same, ⟨?_, fun found => absurd found.2 web⟩, ⟨fun _ => web, fun _ => ⟨error, rfl⟩⟩, rfl,
      fun _ => rfl⟩
    rintro ⟨session, opened⟩
    cases opened

/-- With room for three entries a session of an endpoint on the web opens. -/
theorem session_of_opening_roomy :
    let endpoint : Endpoint := { id := "a", name := "a", url := "http://a/" }
    let settings : Settings := { logCapacity := 3 }
    EventBuffer.HasRoom settings.logCapacity ∧ ∃ session, openWith endpoint settings [] [] = .ok session ∧
      session.endpoint = endpoint ∧ session.logs.feed = .empty 3 := by
  intro endpoint settings
  have room : EventBuffer.HasRoom settings.logCapacity := by decide
  obtain ⟨url, read, scheme⟩ := Option.map_eq_some_iff.mp
    (show (Url.parse? endpoint.url).map (·.scheme) = some "http" by decide +kernel)
  obtain ⟨result, after, -, opened, served, -, told⟩ := session_of_opening endpoint settings [] [] [] []
  obtain ⟨session, rfl⟩ := served.mpr ⟨room, url, read, by simp [scheme]⟩
  obtain ⟨named, _, _, -, known, -⟩ := told
  exact ⟨room, session, opened.symm, named, known.feeds.2⟩

/-- A capacity that no room can be had for: opening panics once the connections are being watched, whose driver may
have begun a connect by then. -/
theorem panics_after_connecting :
    let endpoint : Endpoint := { id := "a", name := "a", url := "http://a" }
    let settings : Settings := { logCapacity := 0xffffffffffffffff }
    openWith endpoint settings [] [] = .error .panic ∧ ∃ first : Task,
      (opening endpoint settings [] [] [.drive, .dial]).outcome [] = (.error .panic, [first]) ∧
        first.run.dials = [0] := by
  intro endpoint settings
  obtain ⟨url, read, scheme⟩ := Option.map_eq_some_iff.mp
    (show (Url.parse? endpoint.url).map (·.scheme) = some "http" by decide +kernel)
  have web : url.scheme ∈ webSchemes := by
    rw [scheme]
    decide
  have full : ¬ EventBuffer.HasRoom settings.logCapacity := by decide
  obtain ⟨first, panics, -, begun⟩ := (outcome_opening_of_web settings [] [] [.drive, .dial] read web []).2 full
  refine ⟨?_, first.dropped [.drive, .dial], panics, ?_⟩
  · rw [← outcome_opening_fst endpoint settings [] [] [.drive, .dial] [], panics]
  · rw [Task.dropped, begun]
    rfl

end ProxyWatch.Session
