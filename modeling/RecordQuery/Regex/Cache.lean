import RecordQuery.Assoc
import RecordQuery.Regex.Program

/-!
# The cache of regular expressions

Expressions that have been read are kept for other uses, up to a fixed number.  The cache is shared
by all callers.  A call looks its expression up, reads it if it is not there, and stores what it has
read.  The lookup and the storing hold a lock; between the steps of a call none is held, so that
those of other calls can come there.

* `Regex.Cache.store`: adds an expression as long as there is room.
* `Regex.Call.step`: the next step of a call.
* `Regex.Traffic.run`: the steps of any number of calls in the order of a schedule.
-/

namespace RecordQuery.Regex

/-- Expressions by their sources. -/
abbrev Cache := List (String × Regex)

namespace Cache

/-- The number of expressions that are kept; more are read at every use. -/
def capacity : Nat := 64

/-- Keeps an expression, unless the cache is full. -/
def store (source : String) (regex : Regex) (cache : Cache) : Cache :=
  if cache.length < capacity then Assoc.insert source regex cache else cache

end Cache

/-- What a call does next, with what it knows. -/
inductive Call.Phase where
  | lookUp
  | read
  | store (regex : Regex)
  | finished (result : Option Regex)

/-- A call for the expression of a source. -/
structure Call where
  source : String
  phase : Call.Phase

namespace Call

/-- A call that has done nothing yet. -/
def start (source : String) : Call := { source, phase := .lookUp }

/-- The next phase of a call that finds the cache in some state. -/
def next (call : Call) (cache : Cache) : Call.Phase :=
  match call.phase with
  | .lookUp =>
    match Assoc.get? call.source cache with
    | some regex => .finished (some regex)
    | none => .read
  | .read =>
    match read? call.source with
    | some regex => .store regex
    | none => .finished none
  | .store regex => .finished (some regex)
  | .finished result => .finished result

/-- The cache after the next step of a call. -/
def write (call : Call) (cache : Cache) : Cache :=
  match call.phase with
  | .store regex => cache.store call.source regex
  | _ => cache

/-- The next step of a call: what becomes of the call, and of the cache. -/
def step (call : Call) (cache : Cache) : Call × Cache :=
  ({ call with phase := call.next cache }, call.write cache)

end Call

/-- A cache and the calls that use it. -/
structure Traffic where
  cache : Cache
  calls : List Call

namespace Traffic

/-- An empty cache, and a call for each source. -/
def start (sources : List String) : Traffic := { cache := [], calls := sources.map .start }

/-- The next step of one of the calls. -/
def advance (traffic : Traffic) (index : Nat) : Traffic :=
  match traffic.calls[index]? with
  | some call =>
    let (call, cache) := call.step traffic.cache
    { cache, calls := traffic.calls.set index call }
  | none => traffic

/-- The steps of the calls in the order of a schedule, which names the call for every step. -/
def run (traffic : Traffic) (schedule : List Nat) : Traffic := schedule.foldl advance traffic

end Traffic

end RecordQuery.Regex
