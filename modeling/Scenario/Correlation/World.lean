import Scenario.Config.Settings
import Scenario.Correlation.Waiting

/-!
# Worlds — managers, stores and handles over time

A manager points to a store and has settings; copies of a manager share its
store until one of them is pointed elsewhere. Handles point to stores as
well. A value can also be sent later: the delivery remembers the store its
manager points to when it is sent.

`World.step` is one action, with time standing still unless the action
waits. While time advances, deliveries that come due are made, the earliest
first. Actions that name a manager or a handle that is not there have no
meaning.
-/

namespace Scenario
namespace Correlation

open Config (Settings)

/-- The beginning of the names under which correlation keys are saved. -/
def keyNameStem : String := "stepcheck_correlation_key_"

/-- The name under which the correlation key of a consumer is saved. -/
def keyName (consumer : String) : String := keyNameStem ++ consumer

/-- A length of time as it is shown: nothing as nanoseconds, less than a
second in milliseconds, and otherwise in seconds without trailing zeros. -/
def durationText (ms : Nat) : String :=
  if ms = 0 then "0ns"
  else if ms < 1000 then s!"{ms}ms"
  else
    let digits := (Nat.toDigits 10 (1000 + ms % 1000)).drop 1
    let places := (digits.reverse.dropWhile (· == '0')).reverse
    let fraction := if places.isEmpty then "" else "." ++ String.ofList places
    s!"{ms / 1000}{fraction}s"

/-- A manager: a store, by its place in the world, and settings. -/
structure Manager where
  /-- The place of the store. -/
  store : Nat
  /-- The settings. -/
  settings : Settings

/-- The settings of a manager as they are shown. -/
def Manager.text (m : Manager) : String :=
  "CorrelationManager \x7b poll_interval: " ++ durationText m.settings.pollInterval ++
  ", default_timeout: " ++ durationText m.settings.defaultTimeout ++ ", .. \x7d"

/-- A value that is to be stored at a later time. -/
structure Delivery where
  /-- When, in milliseconds. -/
  due : Nat
  /-- The place of the store. -/
  store : Nat
  /-- The key. -/
  key : String
  /-- The value. -/
  value : String

/-- Everything there is. -/
structure World where
  /-- The time, in milliseconds. -/
  now : Nat
  /-- The stores. -/
  stores : List (Store String)
  /-- The managers. -/
  managers : List Manager
  /-- The handles: the places of their stores. -/
  handles : List Nat
  /-- The named scopes, each made when it is first used. -/
  scopes : List (String × Scope)
  /-- The deliveries still to be made. -/
  pending : List Delivery

/-- What can be done. Managers and handles are given by their places. -/
inductive Step where
  | store (manager : Nat) (key value : String)
  | find (manager : Nat) (key : String) (patience : Patience)
  | findDefault (manager : Nat) (key : String)
  | tryFind (manager : Nat) (key : String)
  | later (manager : Nat) (key value : String) (afterMs : Nat)
  | wait (ms : Nat)
  | clone (manager : Nat)
  | settings (manager : Nat)
  | objectStore (manager : Nat)
  | newStore (capacity : Option Nat)
  | setStore (manager handle : Nat)
  | withStore (manager handle : Nat)
  | add (handle : Nat) (key value : String)
  | remove (handle : Nat) (key : String)
  | contains (handle : Nat) (key : String)
  | isEmpty (handle : Nat)
  | clear (handle : Nat)
  | saveKey (manager : Nat) (label key scope : String)
  | getKey (manager : Nat) (label scope : String)

/-- The answer to a step. -/
inductive Reply where
  | done
  | value (text : String)
  | failed (error : LookupError)
  | option (text : Option String)
  | flag (value : Bool)
  | place (index : Nat)
  | newStore (handle : Nat) (capacity : Option Nat)
  | settings (pollInterval defaultTimeout : Nat) (text : String)
  | text (value : String)

namespace World

/-- The world with one manager over an empty store. -/
def start (settings : Settings) : World where
  now := 0
  stores := [Store.empty settings.capacity]
  managers := [⟨0, settings⟩]
  handles := []
  scopes := []
  pending := []

/-- The world with the store at a place changed. -/
def updateStore (w : World) (place : Nat) (change : Store String → Store String) : World :=
  { w with stores := w.stores.modify place change }

/-- Add a value to the store at a place. -/
def addTo (w : World) (place : Nat) (key value : String) : World :=
  w.updateStore place fun s => s.add w.now key value

/-- Take a value out of the store at a place. -/
def removeFrom (w : World) (place : Nat) (key : String) : Option String × World :=
  ((w.stores[place]?).bind fun s => (s.remove key).1, w.updateStore place fun s => (s.remove key).2)

/-- Insert a delivery after all that are due no later. -/
def schedule (d : Delivery) : List Delivery → List Delivery
  | [] => [d]
  | e :: es => if e.due ≤ d.due then e :: schedule d es else d :: e :: es

/-- Make deliveries, in their order, each at its time. -/
def deliver : List Delivery → World → World
  | [], w => w
  | d :: ds, w => deliver ds ({ w with now := max w.now d.due }.addTo d.store d.key d.value)

/-- Let time advance to a later one, making the deliveries due until then.
-/
def advanceTo (w : World) (time : Nat) : World :=
  let due := w.pending.takeWhile fun d => d.due ≤ time
  let after := deliver due { w with pending := w.pending.dropWhile fun d => d.due ≤ time }
  { after with now := max after.now time }

/-- The latest time at which a look-up can still change its mind: its
deadline, or one poll interval after the last delivery. -/
def lastCheck (w : World) (poll : Nat) (waiter : Waiter) : Nat :=
  match waiter.deadline with
  | some deadline => deadline
  | none => (w.pending.map (·.due)).foldl max w.now + poll

/-- Check a store, again and again while time advances, until the look-up
is over. There is no answer if it never is. -/
def await (poll place : Nat) (waiter : Waiter) : Nat → World → Option Reply × World
  | 0, w => (none, w)
  | fuel + 1, w =>
    match w.stores[place]? with
    | none => (none, w)
    | some s =>
      match waiter.attempt poll w.now s with
      | (.found value, after) => (some (.value value), w.updateStore place fun _ => after)
      | (.expired error, after) => (some (.failed error), w.updateStore place fun _ => after)
      | (.sleep wake, after) =>
        await poll place waiter fuel ((w.updateStore place fun _ => after).advanceTo wake)

/-- A look-up by a manager. Checks are at least a millisecond apart, so the
time until the last of them bounds their number. -/
def lookUp (w : World) (m : Manager) (key : String) (patience : Patience) :
    Option Reply × World :=
  let waiter := Waiter.start w.now key patience
  let poll := m.settings.pollInterval
  w.await poll m.store waiter (w.lastCheck poll waiter - w.now + 1)

/-- The scope of a name, empty if it was not used before. -/
def scope (w : World) (name : String) : Scope :=
  (w.scopes.lookup name).getD Scope.empty

/-- The world with a named scope replaced. -/
def setScope (w : World) (name : String) (s : Scope) : World :=
  { w with scopes := (name, s) :: w.scopes.filter fun entry => entry.1 != name }

/-- Point a manager to the store at a place. -/
def repoint (w : World) (manager place : Nat) : World :=
  { w with managers := w.managers.modify manager fun m => { m with store := place } }

/-- The world with one more manager, and the reply that says where it is. -/
def addManager (w : World) (m : Manager) : Reply × World :=
  (.place w.managers.length, { w with managers := w.managers ++ [m] })

/-- One step: the reply and the world after it. A look-up that never ends
and a step that names nothing have no reply. -/
def step (w : World) : Step → Option Reply × World
  | .store i key value =>
    match w.managers[i]? with
    | some m => (some .done, w.addTo m.store key value)
    | none => (none, w)
  | .find i key patience =>
    match w.managers[i]? with
    | some m => w.lookUp m key patience
    | none => (none, w)
  | .findDefault i key =>
    match w.managers[i]? with
    | some m => w.lookUp m key (.upTo m.settings.defaultTimeout)
    | none => (none, w)
  | .tryFind i key =>
    match w.managers[i]? with
    | some m =>
      let (value, after) := w.removeFrom m.store key
      (some (.option value), after)
    | none => (none, w)
  | .later i key value afterMs =>
    match w.managers[i]? with
    | some m =>
      (some .done, { w with pending := schedule ⟨w.now + afterMs, m.store, key, value⟩ w.pending })
    | none => (none, w)
  | .wait ms => (some .done, w.advanceTo (w.now + ms))
  | .clone i =>
    match w.managers[i]? with
    | some m => (w.addManager m).map some id
    | none => (none, w)
  | .settings i =>
    match w.managers[i]? with
    | some m =>
      (some (.settings m.settings.pollInterval m.settings.defaultTimeout m.text), w)
    | none => (none, w)
  | .objectStore i =>
    match w.managers[i]? with
    | some m => (some (.place w.handles.length), { w with handles := w.handles ++ [m.store] })
    | none => (none, w)
  | .newStore capacity =>
    let store := Store.empty capacity
    (some (.newStore w.handles.length store.capacity),
      { w with stores := w.stores ++ [store], handles := w.handles ++ [w.stores.length] })
  | .setStore i h =>
    match w.managers[i]?, w.handles[h]? with
    | some _, some place => (some .done, w.repoint i place)
    | _, _ => (none, w)
  | .withStore i h =>
    match w.managers[i]?, w.handles[h]? with
    | some m, some place => (w.addManager { m with store := place }).map some id
    | _, _ => (none, w)
  | .add h key value =>
    match w.handles[h]? with
    | some place => (some .done, w.addTo place key value)
    | none => (none, w)
  | .remove h key =>
    match w.handles[h]? with
    | some place =>
      let (value, after) := w.removeFrom place key
      (some (.option value), after)
    | none => (none, w)
  | .contains h key =>
    match (w.handles[h]?).bind (w.stores[·]?) with
    | some s => (some (.flag (s.contains key)), w)
    | none => (none, w)
  | .isEmpty h =>
    match (w.handles[h]?).bind (w.stores[·]?) with
    | some s => (some (.flag s.isEmpty), w)
    | none => (none, w)
  | .clear h =>
    match w.handles[h]? with
    | some place => (some .done, w.updateStore place Store.clear)
    | none => (none, w)
  | .saveKey i label key name =>
    match w.managers[i]? with
    | some _ =>
      let s := (w.scope name).set label key
      (some (.place s.size), w.setScope name s)
    | none => (none, w)
  | .getKey i label name =>
    match w.managers[i]? with
    | some _ =>
      match (w.scope name).get label with
      | .ok key => (some (.text key), w)
      | .error cause => (some (.failed (.unknownAlias cause)), w)
    | none => (none, w)

/-- The number of entries in the store of each manager. -/
def sizes (w : World) : List Nat :=
  w.managers.map fun m => ((w.stores[m.store]?).map Store.size).getD 0

end World

end Correlation
end Scenario
