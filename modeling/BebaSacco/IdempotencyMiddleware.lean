import BebaSacco.Lib.SerialProcess
import BebaSacco.Lib.Table
import BebaSacco.Deposits
import BebaSacco.Users

/-! # The idempotency middleware

Before a request reaches the guards and its handler, the middleware looks up what it has stored for
the idempotency key: an index entry that names the body it was used with, and the response. When the
handler has answered with a 2xx status, both are written, by two commands that nobody waits for.

A body is known by its hash. Redis answers every command, and no entry expires.

Results:
 1. `cacheKey_inj`: the responses of two bodies have different keys.
 2. `serial_use`: one event keeps the requests of a key taking turns.
 3. `executed_once`: one execution, and its response for whoever repeats it, when requests with one
    key do not overlap, are not cut off and succeed.
 4. `executed_twice`: overlapping requests, and one that arrives between the two writes.
-/

namespace BebaSacco

open Txn Process

/-- What the middleware reads of a request; `body` is the hash of the body. -/
structure IdemRequest where
  method : String
  path : String
  tenantId : Option String
  tenantHeader : Option String
  authorization : Option String
  idempotencyKeys : List (Option String)
  body : String
  deriving DecidableEq, Repr

structure HttpResponse where
  status : Nat
  headers : List (String × String)
  body : String
  deriving DecidableEq, Repr

structure CachedIdempotencyResponse where
  bodyHash : String
  status : Nat
  headers : List (String × String)
  body : String
  deriving DecidableEq, Repr

structure IdempotencyIndex where
  bodyHash : String
  cacheKey : String
  deriving DecidableEq, Repr

def MUTATING_METHODS : List String := ["POST", "PATCH", "PUT"]

def SKIP_PATTERNS : List String := ["/health", "/metrics", "/docs", "/favicon.ico"]

def includes (s pattern : String) : Bool := s.toList.tails.any (pattern.toList.isPrefixOf ·)

/-- The first of the two headers with a value that is not blank. -/
def getIdempotencyKey (headers : List (Option String)) : Option String :=
  headers.findSome? fun value => (value.map jsTrim).filter (· != "")

def shouldCacheStatus (statusCode : Nat) : Bool := 200 ≤ statusCode && statusCode < 300

def isUnsafeReplayHeader (header : String) : Bool :=
  ["set-cookie", "content-length", "transfer-encoding", "connection"].contains header.toLower

/-- What is stored of a response. -/
def toCache (bodyHash : String) (r : HttpResponse) : CachedIdempotencyResponse where
  bodyHash
  status := r.status
  headers := r.headers.filter (!isUnsafeReplayHeader ·.1)
  body := r.body

/-- What is answered from a stored response. -/
def replay (c : CachedIdempotencyResponse) : HttpResponse where
  status := c.status
  headers := c.headers.filter (!isUnsafeReplayHeader ·.1) ++ [("X-Idempotency-Replayed", "true")]
  body := c.body

/-- What an idempotency key is scoped by. -/
structure IdemScope where
  tenantId : String
  userId : String
  method : String
  path : String
  idempotencyKey : String
  deriving DecidableEq, Repr

namespace IdemScope

variable (k : IdemScope)

def indexKey : String :=
  "idem:index:" ++ k.tenantId ++ ":" ++ k.userId ++ ":" ++ k.method ++ ":" ++ k.path ++ ":" ++
    k.idempotencyKey

def cacheKey (bodyHash : String) : String :=
  "idem:" ++ k.tenantId ++ ":" ++ k.userId ++ ":" ++ k.method ++ ":" ++ k.path ++ ":" ++
    (bodyHash ++ (":" ++ k.idempotencyKey))

/-- The responses of two bodies have different keys. -/
theorem cacheKey_inj {k : IdemScope} {b b' : String} (h : k.cacheKey b = k.cacheKey b') : b = b' :=
  (String.append_left_inj _).mp ((String.append_right_inj _).mp h)

end IdemScope

/-! ## 1. What the middleware does -/

/-- The second of the parts between dots of what follows `Bearer `, decoded and parsed by
`payloadSubject`; nobody verifies the signature. -/
def decodeBearerSubject (payloadSubject : String → Option String) (authorization : String) :
    Option String :=
  match afterPrefix "Bearer " authorization with
  | none => none
  | some token =>
    ((token.toList.splitOn '.')[1]?.filter (· != [])).bind fun payload =>
      payloadSubject (String.ofList payload)

/-- The scope of a request, if the middleware takes it up. -/
def IdemRequest.scope (payloadSubject : String → Option String) (r : IdemRequest) :
    Option IdemScope :=
  if !MUTATING_METHODS.contains r.method || SKIP_PATTERNS.any (includes r.path ·) then none
  else
    (getIdempotencyKey r.idempotencyKeys).map fun idempotencyKey =>
      { tenantId := (r.tenantId.or r.tenantHeader).getD "global"
        userId := (r.authorization.bind (decodeBearerSubject payloadSubject)).getD "anonymous"
        method := r.method.toUpper
        path := r.path
        idempotencyKey }

/-- The two kinds of entries in Redis, newest first. -/
structure IdemStore where
  indexes : List (String × IdempotencyIndex)
  responses : List (String × CachedIdempotencyResponse)
  deriving DecidableEq, Repr

/-- The entry under a key. -/
def entryAt {α : Type} (entries : List (String × α)) (key : String) : Option α :=
  (entries.find? fun entry => entry.1 == key).map (·.2)

namespace IdemStore

variable (store : IdemStore)

def findIndex (k : IdemScope) : Option IdempotencyIndex := entryAt store.indexes k.indexKey

/-- The response that is replayed to a body. -/
def findCached (k : IdemScope) (bodyHash : String) (index : Option IdempotencyIndex) :
    Option CachedIdempotencyResponse :=
  (entryAt store.responses ((index.map (·.cacheKey)).getD (k.cacheKey bodyHash))).filter
    (·.bodyHash == bodyHash)

def setIndex (k : IdemScope) (bodyHash : String) : IdemStore :=
  { store with indexes := (k.indexKey, ⟨bodyHash, k.cacheKey bodyHash⟩) :: store.indexes }

def setResponse (k : IdemScope) (bodyHash : String) (r : HttpResponse) : IdemStore :=
  { store with responses := (k.cacheKey bodyHash, toCache bodyHash r) :: store.responses }

end IdemStore

/-! ## 2. The requests of one key -/

/-- A body and the response to it. -/
structure Execution where
  bodyHash : String
  response : HttpResponse
  deriving DecidableEq, Repr

/-- The store, the runs of the handler that have answered, and the responses that were replayed;
the newest first. -/
structure IdemDesk where
  store : IdemStore
  executions : List Execution
  replays : List Execution
  deriving DecidableEq, Repr

inductive IdemTask where
  | getIndex (bodyHash : String)
  | getCached (bodyHash : String) (index : Option IdempotencyIndex)
  | handler (bodyHash : String)
  | finish (bodyHash : String) (response : HttpResponse)
  | setIndex (bodyHash : String)
  | setResponse (bodyHash : String) (response : HttpResponse)
  deriving DecidableEq, Repr

/-- What the handler answers, and which of the two writes gets to Redis first. -/
structure IdemInput where
  response : HttpResponse
  indexFirst : Bool
  deriving DecidableEq, Repr

abbrev IdemWorld := World IdemDesk IdemTask

abbrev IdemEvent := Event String IdemInput

section

variable (k : IdemScope)

/-- `use` and the `finish` listener, for the requests with one scope. -/
def IdemTask.next : IdemTask → IdemInput → Txn IdemDesk AuthErr (Option IdemTask)
  | .getIndex bodyHash, _ => do
    let d ← get
    let index := d.store.findIndex k
    ensure (index.all (·.bodyHash == bodyHash) = true)
      (.conflict "Idempotency key was reused with a different request body.")
    return some (.getCached bodyHash index)
  | .getCached bodyHash index, _ => do
    let d ← get
    match d.store.findCached k bodyHash index with
    | some cached =>
      modify fun d => { d with replays := ⟨bodyHash, replay cached⟩ :: d.replays }
      return none
    | none => return some (.handler bodyHash)
  | .handler bodyHash, input => do
    modify fun d => { d with executions := ⟨bodyHash, input.response⟩ :: d.executions }
    if shouldCacheStatus input.response.status then
      return some (.finish bodyHash input.response)
    else
      return none
  | .finish bodyHash response, input => do
    if input.indexFirst then
      modify fun d => { d with store := d.store.setIndex k bodyHash }
      return some (.setResponse bodyHash response)
    else
      modify fun d => { d with store := d.store.setResponse k bodyHash response }
      return some (.setIndex bodyHash)
  | .setIndex bodyHash, _ => do
    modify fun d => { d with store := d.store.setIndex k bodyHash }
    return none
  | .setResponse bodyHash response, _ => do
    modify fun d => { d with store := d.store.setResponse k bodyHash response }
    return none

def idemProgram : Program IdemDesk AuthErr String IdemInput IdemTask :=
  ⟨.getIndex, IdemTask.next k⟩

/-- Nothing is stored for the key yet. -/
def IdemWorld.opening : IdemWorld := ⟨⟨⟨[], []⟩, [], []⟩, []⟩

def IdemWorld.after (w : IdemWorld) (events : List IdemEvent) : IdemWorld :=
  Machine.run (idemProgram k).step w events

end

/-! ## 3. The property and the condition -/

def Execution.succeeded (x : Execution) : Bool := shouldCacheStatus x.response.status

structure IdemDesk.ExecutedOnce (d : IdemDesk) : Prop where
  /-- The handler runs to a 2xx response once at most. -/
  once : d.executions.countP (·.succeeded) ≤ 1
  /-- It runs for no other request with the body of that run. -/
  alone : ∀ x ∈ d.executions, x.succeeded = true →
    d.executions.countP (fun y => y.bodyHash == x.bodyHash) ≤ 1
  /-- What is replayed to a body is the response that it got. -/
  replayed : ∀ a ∈ d.replays, ∃ x ∈ d.executions, x.succeeded = true ∧ x.bodyHash = a.bodyHash ∧
    a.response = replay (toCache x.bodyHash x.response)
  /-- It runs for no body but the first one's. -/
  first : ∀ x ∈ d.executions, ∀ y ∈ d.executions, x.bodyHash = y.bodyHash

/-- A request that has not looked anything up yet. -/
def IdemTask.arriving : IdemTask → Bool
  | .getIndex _ => true
  | _ => false

/-- The condition on an event: a request looks up while no other one is past its lookup, no request
that is past it is cut off, and a handler answers with a 2xx status. -/
def IdemWorld.orderly (w : IdemWorld) : IdemEvent → Bool
  | .start _ => true
  | .advance i input =>
    match w.task i with
    | some (.getIndex _) => w.tasks.all (·.all (·.arriving))
    | some (.handler _) => shouldCacheStatus input.response.status
    | _ => true
  | .crash i => (w.task i).all (·.arriving)

namespace IdemLemmas

variable {k : IdemScope} {w : IdemWorld} {d d' : IdemDesk} {t : IdemTask} {t' : Option IdemTask}
  {input : IdemInput} {e : IdemEvent} {bodyHash : String} {x : Execution}

/-! ## 4. One statement -/

theorem entryAt_cons {α : Type} {entries : List (String × α)} {key : String} {a : α} :
    entryAt ((key, a) :: entries) key = some a := by
  simp only [entryAt, List.find?_cons, beq_self_eq_true, Option.map_some]

def Arriving (t : IdemTask) : Prop := ∃ bodyHash, t = .getIndex bodyHash

/-- Both entries of an execution are there. -/
structure Stored (k : IdemScope) (store : IdemStore) (x : Execution) : Prop where
  index : store.findIndex k = some ⟨x.bodyHash, k.cacheKey x.bodyHash⟩
  response : entryAt store.responses (k.cacheKey x.bodyHash) =
    some (toCache x.bodyHash x.response)

/-- The replays are of the execution. -/
def Replayed (x : Execution) (replays : List Execution) : Prop :=
  ∀ a ∈ replays, x.bodyHash = a.bodyHash ∧ a.response = replay (toCache x.bodyHash x.response)

/-- The state of a key next to the one request that is past its lookup, if there is one. -/
inductive KeyStage (k : IdemScope) (d : IdemDesk) : Option IdemTask → Prop
  | fresh (h : d = ⟨⟨[], []⟩, [], []⟩) : KeyStage k d none
  | looking {bodyHash : String} (h : d = ⟨⟨[], []⟩, [], []⟩) :
      KeyStage k d (some (.getCached bodyHash none))
  | handling {bodyHash : String} (h : d = ⟨⟨[], []⟩, [], []⟩) :
      KeyStage k d (some (.handler bodyHash))
  | finishing {x : Execution} (hx : x.succeeded = true) (h : d = ⟨⟨[], []⟩, [x], []⟩) :
      KeyStage k d (some (.finish x.bodyHash x.response))
  | indexed {x : Execution} (hx : x.succeeded = true)
      (hindex : d.store.findIndex k = some ⟨x.bodyHash, k.cacheKey x.bodyHash⟩)
      (hexecutions : d.executions = [x]) (hreplays : d.replays = []) :
      KeyStage k d (some (.setResponse x.bodyHash x.response))
  | responded {x : Execution} (hx : x.succeeded = true)
      (hresponse : entryAt d.store.responses (k.cacheKey x.bodyHash) =
        some (toCache x.bodyHash x.response))
      (hexecutions : d.executions = [x]) (hreplays : d.replays = []) :
      KeyStage k d (some (.setIndex x.bodyHash))
  | stored {x : Execution} (hx : x.succeeded = true) (hstored : Stored k d.store x)
      (hexecutions : d.executions = [x]) (hreplays : Replayed x d.replays) : KeyStage k d none
  | repeating {x : Execution} (hx : x.succeeded = true) (hstored : Stored k d.store x)
      (hexecutions : d.executions = [x]) (hreplays : Replayed x d.replays) :
      KeyStage k d (some (.getCached x.bodyHash (some ⟨x.bodyHash, k.cacheKey x.bodyHash⟩)))

theorem stage_getIndex (h : KeyStage k d none)
    (hy : Yields (IdemTask.next k (.getIndex bodyHash) input) d t' d') : KeyStage k d' t' := by
  simp only [IdemTask.next, yields_bind, yields_get, yields_ensure, yields_pure] at hy
  obtain ⟨_, _, ⟨rfl, rfl⟩, _, _, ⟨hbody, rfl⟩, rfl, rfl⟩ := hy
  cases h with
  | fresh h =>
    subst h
    exact .looking rfl
  | stored hx hstored hexecutions hreplays =>
    rw [hstored.index, Option.all_some, beq_iff_eq] at hbody
    subst hbody
    rw [hstored.index]
    exact .repeating hx hstored hexecutions hreplays

theorem stage_next (h : KeyStage k d (some t))
    (hhandler : ∀ bodyHash, t = .handler bodyHash → shouldCacheStatus input.response.status = true)
    (hy : Yields (IdemTask.next k t input) d t' d') : KeyStage k d' t' := by
  cases h with
  | looking h =>
    subst h
    simp only [IdemTask.next, yields_bind, yields_get] at hy
    obtain ⟨_, _, ⟨rfl, rfl⟩, hy⟩ := hy
    have hmissing : ∀ b, IdemStore.findCached ⟨[], []⟩ k b none = none := fun _ => rfl
    simp only [hmissing, yields_pure] at hy
    obtain ⟨rfl, rfl⟩ := hy
    exact .handling rfl
  | handling h =>
    subst h
    have hstatus := hhandler _ rfl
    simp only [IdemTask.next, if_pos hstatus, yields_bind, yields_modify, yields_pure] at hy
    obtain ⟨_, _, rfl, rfl, rfl⟩ := hy
    exact .finishing (x := ⟨_, input.response⟩) hstatus rfl
  | finishing hx h =>
    subst h
    simp only [IdemTask.next] at hy
    split at hy
    · simp only [yields_bind, yields_modify, yields_pure] at hy
      obtain ⟨_, _, rfl, rfl, rfl⟩ := hy
      exact .indexed hx entryAt_cons rfl rfl
    · simp only [yields_bind, yields_modify, yields_pure] at hy
      obtain ⟨_, _, rfl, rfl, rfl⟩ := hy
      exact .responded hx entryAt_cons rfl rfl
  | indexed hx hindex hexecutions hreplays =>
    simp only [IdemTask.next, yields_bind, yields_modify, yields_pure] at hy
    obtain ⟨_, _, rfl, rfl, rfl⟩ := hy
    refine .stored hx ⟨hindex, entryAt_cons⟩ hexecutions fun a ha => ?_
    rw [hreplays] at ha
    cases ha
  | responded hx hresponse hexecutions hreplays =>
    simp only [IdemTask.next, yields_bind, yields_modify, yields_pure] at hy
    obtain ⟨_, _, rfl, rfl, rfl⟩ := hy
    refine .stored hx ⟨entryAt_cons, hresponse⟩ hexecutions fun a ha => ?_
    rw [hreplays] at ha
    cases ha
  | @repeating x hx hstored hexecutions hreplays =>
    simp only [IdemTask.next, yields_bind, yields_get] at hy
    obtain ⟨_, _, ⟨rfl, rfl⟩, hy⟩ := hy
    have hfound : IdemStore.findCached d.store k x.bodyHash
        (some ⟨x.bodyHash, k.cacheKey x.bodyHash⟩) = some (toCache x.bodyHash x.response) := by
      unfold IdemStore.findCached
      rw [Option.map_some, Option.getD_some, hstored.response]
      exact Option.filter_some_pos (beq_self_eq_true _)
    simp only [hfound, yields_bind, yields_modify, yields_pure] at hy
    obtain ⟨_, _, rfl, rfl, rfl⟩ := hy
    refine .stored hx hstored hexecutions fun a ha => ?_
    rcases List.mem_cons.mp ha with rfl | ha
    · exact ⟨rfl, rfl⟩
    · exact hreplays a ha

theorem next_total (ht : ¬ Arriving t) : ∃ t' d', Yields (IdemTask.next k t input) d t' d' := by
  cases t with
  | getIndex bodyHash => exact absurd ⟨bodyHash, rfl⟩ ht
  | getCached bodyHash index =>
    cases hcached : d.store.findCached k bodyHash index with
    | none =>
      have hy : Yields (IdemTask.next k (.getCached bodyHash index) input) d
          (some (.handler bodyHash)) d := by
        simp only [IdemTask.next, yields_bind, yields_get]
        refine ⟨d, d, ⟨rfl, rfl⟩, ?_⟩
        simp only [hcached, yields_pure, and_self]
      exact ⟨_, _, hy⟩
    | some cached =>
      have hy : Yields (IdemTask.next k (.getCached bodyHash index) input) d none
          { d with replays := ⟨bodyHash, replay cached⟩ :: d.replays } := by
        simp only [IdemTask.next, yields_bind, yields_get]
        refine ⟨d, d, ⟨rfl, rfl⟩, ?_⟩
        simp only [hcached, yields_bind, yields_modify, yields_pure]
        exact ⟨(), _, rfl, trivial, rfl⟩
      exact ⟨_, _, hy⟩
  | handler bodyHash =>
    simp only [IdemTask.next, yields_bind, yields_modify]
    split
    · exact ⟨_, _, (), _, rfl, yields_pure.mpr ⟨rfl, rfl⟩⟩
    · exact ⟨_, _, (), _, rfl, yields_pure.mpr ⟨rfl, rfl⟩⟩
  | finish bodyHash response =>
    simp only [IdemTask.next]
    split
    · simp only [yields_bind, yields_modify, yields_pure]
      exact ⟨_, _, (), _, rfl, rfl, rfl⟩
    · simp only [yields_bind, yields_modify, yields_pure]
      exact ⟨_, _, (), _, rfl, rfl, rfl⟩
  | setIndex bodyHash | setResponse bodyHash response =>
    simp only [IdemTask.next, yields_bind, yields_modify, yields_pure]
    exact ⟨_, _, (), _, rfl, rfl, rfl⟩

theorem next_past {u : IdemTask} (hy : Yields (IdemTask.next k t input) d (some u) d') :
    ¬ Arriving u := by
  rintro ⟨bodyHash, rfl⟩
  cases t with
  | getIndex _ =>
    simp only [IdemTask.next, yields_bind, yields_pure] at hy
    obtain ⟨_, _, _, _, _, _, hu, -⟩ := hy
    cases hu
  | getCached _ _ =>
    simp only [IdemTask.next, yields_bind] at hy
    obtain ⟨_, _, _, hy⟩ := hy
    split at hy
    · simp only [yields_bind, yields_pure] at hy
      obtain ⟨_, _, _, hu, -⟩ := hy
      cases hu
    · cases (yields_pure.mp hy).1
  | handler _ =>
    simp only [IdemTask.next, yields_bind] at hy
    obtain ⟨_, _, _, hy⟩ := hy
    split at hy <;> cases (yields_pure.mp hy).1
  | finish _ _ =>
    simp only [IdemTask.next] at hy
    split at hy
    · simp only [yields_bind, yields_pure] at hy
      obtain ⟨_, _, _, hu, -⟩ := hy
      cases hu
    · simp only [yields_bind, yields_pure] at hy
      obtain ⟨_, _, _, hu, -⟩ := hy
      cases hu
  | setIndex _ | setResponse _ _ =>
    simp only [IdemTask.next, yields_bind, yields_pure] at hy
    obtain ⟨_, _, _, hu, -⟩ := hy
    cases hu

/-! ## 5. One event -/

theorem arriving_iff : t.arriving = true ↔ Arriving t := by
  constructor
  · intro h
    cases t with
    | getIndex bodyHash => exact ⟨bodyHash, rfl⟩
    | _ => cases h
  · rintro ⟨bodyHash, rfl⟩
    rfl

theorem serial_use (h : Serial Arriving (KeyStage k) w) (horderly : w.orderly e = true) :
    Serial Arriving (KeyStage k) ((idemProgram k).step w e) := by
  refine serial_step h (fun bodyHash => ⟨bodyHash, rfl⟩) ?_ ?_
  · intro i t hlost hat ht _
    rcases hlost with rfl | ⟨input, -, hfails⟩
    · unfold IdemWorld.orderly at horderly
      simp only [task_some.mpr hat, Option.all_some] at horderly
      exact absurd (arriving_iff.mp horderly) ht
    · obtain ⟨t', d', hy⟩ := next_total ht
      exact absurd hy (hfails t' d')
  · intro i input t t' d' he hat hy
    subst he
    have hpast : ∀ u, t' = some u → ¬ Arriving u := by
      rintro u rfl
      exact next_past hy
    by_cases ht : Arriving t
    · obtain ⟨bodyHash, rfl⟩ := ht
      refine .inr (.inr ⟨⟨bodyHash, rfl⟩, hpast, fun o hstage hthere => ?_⟩)
      have hnone : o = none := by
        cases o with
        | none => rfl
        | some u =>
          obtain ⟨hu, j, hj⟩ := hthere u rfl
          unfold IdemWorld.orderly at horderly
          simp only [task_some.mpr hat] at horderly
          have hall := List.all_eq_true.mp horderly _ (List.mem_of_getElem? hj)
          exact absurd (arriving_iff.mp hall) hu
      subst hnone
      have hlookup : Yields (IdemTask.next k (.getIndex bodyHash) input) w.state t' d' := hy
      exact ⟨rfl, stage_getIndex hstage hlookup⟩
    · refine .inl ⟨ht, hpast, fun hstage => stage_next hstage (fun bodyHash hhandler => ?_) hy⟩
      subst hhandler
      unfold IdemWorld.orderly at horderly
      simp only [task_some.mpr hat] at horderly
      exact horderly

theorem serial_opening : Serial Arriving (KeyStage k) IdemWorld.opening :=
  ⟨none, ⟨fun i t hi => (by cases hi), fun i t hit => (by cases hit)⟩, .fresh rfl⟩

/-- One execution at most, which every replay is of. -/
theorem executed_of_one (hexecutions : ∀ y ∈ d.executions, y = x) (hlength : d.executions.length ≤ 1)
    (hreplays : ∀ a ∈ d.replays, x ∈ d.executions ∧ x.succeeded = true ∧ x.bodyHash = a.bodyHash ∧
      a.response = replay (toCache x.bodyHash x.response)) : d.ExecutedOnce where
  once := Nat.le_trans List.countP_le_length hlength
  alone _ _ _ := Nat.le_trans List.countP_le_length hlength
  replayed a ha := by
    obtain ⟨hx, hreplay⟩ := hreplays a ha
    exact ⟨x, hx, hreplay⟩
  first y hy z hz := by rw [hexecutions y hy, hexecutions z hz]

theorem executed_fresh (h : d = ⟨⟨[], []⟩, [], []⟩) : d.ExecutedOnce := by
  subst h
  exact executed_of_one (x := ⟨"", ⟨0, [], ""⟩⟩) (fun _ hy => (by cases hy)) (Nat.zero_le 1)
    fun _ ha => (by cases ha)

theorem executed_single (hx : x.succeeded = true) (hexecutions : d.executions = [x])
    (hreplays : Replayed x d.replays) : d.ExecutedOnce := by
  refine executed_of_one (x := x) (fun y hy => ?_) ?_ fun a ha => ?_
  · rw [hexecutions] at hy
    exact List.mem_singleton.mp hy
  · rw [hexecutions]
    exact Nat.le_refl 1
  · rw [hexecutions]
    exact ⟨List.mem_singleton_self x, hx, hreplays a ha⟩

theorem executed_of_serial (h : Serial Arriving (KeyStage k) w) : w.state.ExecutedOnce := by
  have hnone : ∀ {x : Execution} {replays : List Execution}, replays = [] → Replayed x replays := by
    rintro x _ rfl a ha
    cases ha
  obtain ⟨engaged, -, hstage⟩ := h
  generalize engaged.map Prod.snd = o at hstage
  cases hstage with
  | fresh h | looking h | handling h => exact executed_fresh h
  | finishing hx h =>
    exact executed_single hx (h ▸ rfl) (hnone (h ▸ rfl))
  | indexed hx _ hexecutions hreplays | responded hx _ hexecutions hreplays =>
    exact executed_single hx hexecutions (hnone hreplays)
  | stored hx _ hexecutions hreplays | repeating hx _ hexecutions hreplays =>
    exact executed_single hx hexecutions hreplays

end IdemLemmas

open IdemLemmas

/-! ## 6. Runs -/

/-- When the requests with one key do not overlap, are not cut off and succeed, the handler runs
once; the others with that body get its response again and those with another body are refused. -/
theorem executed_once (k : IdemScope) (events : List IdemEvent)
    (h : Machine.Guarded (idemProgram k).step (fun w e => IdemWorld.orderly w e = true)
      IdemWorld.opening events) : (IdemWorld.opening.after k events).state.ExecutedOnce :=
  executed_of_serial (Machine.run_induct (fun _ _ => serial_use) serial_opening h)

/-- A deposit request of a user. -/
def exScope : IdemScope :=
  ⟨"7f0c2c1e-5a3c-4e52-9b0e-6c1f1a1f0a11", "u1", "POST", "/api/v1/mpesa/deposit", "key-1"⟩

/-- The next step of request `i`, whose handler answers 201. -/
def exServe (i : Nat) : IdemEvent := .advance i ⟨⟨201, [], "created"⟩, false⟩

theorem executed_once_repeated :
    (IdemWorld.opening.after exScope
      [.start "b1", exServe 0, exServe 0, exServe 0, exServe 0, exServe 0, .start "b1", exServe 1,
        exServe 1, .start "b2", exServe 2]).state.ExecutedOnce :=
  executed_once exScope _ (by decide +kernel)

/-- Two requests look up before either has answered, and both are executed. Between the two writes
of the first request, one with another body finds no index entry and is executed too. -/
theorem executed_twice :
    let world (events : List IdemEvent) := IdemWorld.opening.after exScope events
    let overlapping : List IdemEvent :=
      [.start "b1", .start "b1", exServe 0, exServe 0, exServe 1, exServe 1, exServe 0, exServe 1]
    let between : List IdemEvent :=
      [.start "b1", exServe 0, exServe 0, exServe 0, exServe 0, .start "b2", exServe 1, exServe 1,
        exServe 1]
    (world overlapping).state.executions.countP (·.succeeded) = 2 ∧
      (world between).state.executions.map (·.bodyHash) = ["b2", "b1"] := by
  decide +kernel

end BebaSacco
