import DynamicCssc.Cssc
import DynamicCssc.Foundation.Netting

/-! Publication windows over single events. Times are any ordered type with some addition and
subtraction: nothing below depends on their laws. -/
namespace DynamicCssc
open Foundation

inductive EventKind
  | set
  | tick
  | query
  | version
deriving DecidableEq, Repr

structure Event (T : Type) where
  timestamp : T
  kind : EventKind
  row : Option ℤ
  col : Option ℤ
  value : Option ℤ
deriving DecidableEq, Repr

structure NetUpdate where
  row : ℤ
  col : ℤ
  before : ℤ
  after : ℤ
deriving DecidableEq, Repr

def NetUpdate.coordinate (update : NetUpdate) : Coordinate := ⟨update.row,update.col⟩
def NetUpdate.isNoop (update : NetUpdate) : Bool := update.before = update.after

structure PublicationWindow (T : Type) where
  index : ℕ
  startTime : T
  endTime : T
  updates : List NetUpdate
  queryCount : ℕ
  reason : String
deriving DecidableEq, Repr

/-- The variables of `publication_windows` between two events. -/
structure OpenWindow (T : Type) where
  pending : Netting.Pending Coordinate
  startTime : Option T
  lastTime : Option T
  index : ℕ
  updateEvents : ℕ
  pendingMicrobatch : Bool
  pendingQueries : ℕ
  pendingQueryTime : Option T

def netUpdates (pending : Netting.Pending Coordinate) : List NetUpdate :=
  pending.net.map fun update => ⟨update.1.row,update.1.col,update.2.1,update.2.2⟩

section
variable {T : Type} [LinearOrder T]

namespace OpenWindow

def start (initialState : List (Coordinate × ℤ)) : OpenWindow T :=
  ⟨.start initialState,none,none,0,0,false,0,none⟩

/-- `flush`: the window it returns, if any. -/
def flush (endTime : T) (reason : String) (opened : OpenWindow T) :
    OpenWindow T × List (PublicationWindow T) :=
  if opened.pending.touched = [] ∧ opened.pendingQueries = 0 then
    ({ opened with startTime := none, updateEvents := 0, pendingMicrobatch := false },[])
  else
    ({ opened with
        pending := opened.pending.clear
        index := opened.index + 1
        startTime := none
        updateEvents := 0
        pendingMicrobatch := false
        pendingQueries := 0
        pendingQueryTime := none },
      [⟨opened.index,opened.startTime.getD endTime,endTime,netUpdates opened.pending,
        opened.pendingQueries,reason⟩])

def closeQuery (queryRequiresLatest : Bool) (event : Event T) (opened : OpenWindow T) :
    OpenWindow T × List (PublicationWindow T) :=
  if queryRequiresLatest = true ∧ opened.pendingQueries ≠ 0 ∧
      (event.kind ≠ .query ∨ some event.timestamp ≠ opened.pendingQueryTime) then
    opened.flush (opened.pendingQueryTime.getD event.timestamp) "query"
  else (opened,[])

def closeMicrobatch (previousTime : Option T) (event : Event T) (opened : OpenWindow T) :
    OpenWindow T × List (PublicationWindow T) :=
  match previousTime with
  | none => (opened,[])
  | some previous =>
    if opened.pendingMicrobatch = true ∧ event.timestamp ≠ previous then
      opened.flush previous "microbatch"
    else (opened,[])

def closeFreshness [Add T] [Sub T] (maxSeconds : T) (event : Event T) (opened : OpenWindow T) :
    OpenWindow T × List (PublicationWindow T) :=
  match opened.startTime with
  | none => (opened,[])
  | some startTime =>
    if maxSeconds ≤ event.timestamp - startTime ∧ opened.pending.touched ≠ [] then
      opened.flush (startTime + maxSeconds) "freshness"
    else (opened,[])

def recordSet (microbatchMaxUpdates : ℕ) (timestamp : T) (coordinate : Coordinate) (value : ℤ)
    (opened : OpenWindow T) : OpenWindow T :=
  { opened with
    startTime := some (opened.startTime.getD timestamp)
    pending := opened.pending.record coordinate value
    updateEvents := opened.updateEvents + 1
    pendingMicrobatch := opened.pendingMicrobatch ||
      decide (microbatchMaxUpdates ≤ opened.updateEvents + 1) }

/-- The branches on the kind of an event. -/
def receive (microbatchMaxUpdates : ℕ) (event : Event T) (opened : OpenWindow T) :
    Checked (OpenWindow T × List (PublicationWindow T)) :=
  match event.kind with
  | .set =>
    match event.row, event.col, event.value with
    | some row, some col, some value =>
      .ok (opened.recordSet microbatchMaxUpdates event.timestamp ⟨row,col⟩ value,[])
    | _, _, _ => .error ⟨.valueError,"set event requires row, col, and value"⟩
  | .tick => do
    Checked.require (event.row = none ∧ event.col = none ∧ event.value = none)
      ⟨.valueError,"tick event must not carry row, col, or value"⟩
    return (opened,[])
  | .query => .ok ({ opened with
      startTime := some (opened.startTime.getD event.timestamp)
      pendingQueries := opened.pendingQueries + 1
      pendingQueryTime := some event.timestamp },[])
  | .version => .ok (opened.flush event.timestamp "version")

/-- The windows that an event closes before it is received. -/
def closeBefore [Add T] [Sub T] (maxSeconds : T) (queryRequiresLatest : Bool) (event : Event T)
    (opened : OpenWindow T) : OpenWindow T × List (PublicationWindow T) :=
  let queried := closeQuery queryRequiresLatest event { opened with lastTime := some event.timestamp }
  let batched := closeMicrobatch opened.lastTime event queried.1
  let fresh := closeFreshness maxSeconds event batched.1
  (fresh.1,queried.2 ++ batched.2 ++ fresh.2)

/-- The body of the loop over the events. -/
def advance [Add T] [Sub T] (maxSeconds : T) (microbatchMaxUpdates : ℕ) (queryRequiresLatest : Bool)
    (opened : OpenWindow T) (event : Event T) : Checked (OpenWindow T × List (PublicationWindow T)) := do
  Checked.require (opened.lastTime.all fun last => last ≤ event.timestamp)
    ⟨.valueError,"events must be nondecreasing in timestamp"⟩
  let closed := closeBefore maxSeconds queryRequiresLatest event opened
  let received ← closed.1.receive microbatchMaxUpdates event
  return (received.1,closed.2 ++ received.2)

/-- The flush after the loop. -/
def finish [Zero T] (queryRequiresLatest : Bool) (opened : OpenWindow T) : List (PublicationWindow T) :=
  if opened.pending.touched = [] ∧ opened.pendingQueries = 0 then []
  else
    (opened.flush (opened.lastTime.getD 0)
      (if queryRequiresLatest = true ∧ opened.pendingQueries ≠ 0 then "query"
        else if opened.pendingMicrobatch = true then "microbatch" else "end-of-stream")).2

end OpenWindow

/-- One event after the windows of the earlier ones. -/
def emitWindows [Add T] [Sub T] (maxSeconds : T) (microbatchMaxUpdates : ℕ) (queryRequiresLatest : Bool)
    (state : OpenWindow T × List (PublicationWindow T)) (event : Event T) :
    Checked (OpenWindow T × List (PublicationWindow T)) := do
  let next ← state.1.advance maxSeconds microbatchMaxUpdates queryRequiresLatest event
  return (next.1,state.2 ++ next.2)

/-- `publication_windows`, drained. -/
def publicationWindows [Add T] [Sub T] [Zero T] (initialState : List (Coordinate × ℤ)) (maxSeconds : T)
    (microbatchMaxUpdates : ℕ) (queryRequiresLatest : Bool) (events : List (Event T)) :
    Checked (List (PublicationWindow T)) := do
  Checked.require (0 < maxSeconds) ⟨.valueError,"max_seconds must be positive"⟩
  Checked.require (0 < microbatchMaxUpdates) ⟨.valueError,"microbatch_max_updates must be positive"⟩
  let final ← events.foldlM (emitWindows maxSeconds microbatchMaxUpdates queryRequiresLatest)
    (.start initialState,[])
  return final.2 ++ final.1.finish queryRequiresLatest

end
end DynamicCssc
