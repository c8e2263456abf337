import Mathlib.Data.List.Basic
import Calls.Library.System

/-! The batcher: a bounded queue of items, and a goroutine that runs what it finds
in it at every tick. Items are pushed at any time, also while a batch is running. -/

set_option autoImplicit false

namespace Calls.Batching

structure Config where
  interval : Int
  size : Int
  /-- Whether there is a callback to be run before a batch, and one after it. -/
  preRunCb : Bool
  postRunCb : Bool
  deriving DecidableEq

/-- Where the goroutine of a batcher is. -/
inductive Loop where
  | notStarted
  | selecting
  /-- In the callback before a batch of the given size. -/
  | inPreRun (batchSize : Nat)
  | draining (left : Nat)
  /-- In an item, after which so many are left. -/
  | inItem (left : Nat)
  | inPostRun
  | returned
  deriving DecidableEq

structure Batcher (α : Type) where
  cfg : Config
  itemsCh : List α
  stopCh : Bool
  batches : Nat
  loop : Loop
  deriving DecidableEq

variable {α : Type}

def newBatcher (α : Type) (cfg : Config) : Except String (Batcher α) :=
  if cfg.interval ≤ 0 then .error "interval should be > 0"
  else if cfg.size ≤ 0 then .error "size should be > 0"
  else .ok { cfg, itemsCh := [], stopCh := false, batches := 0, loop := .notStarted }

inductive BatcherStep (α : Type) where
  | push (item : α)
  | start
  | tick
  | preRunReturns (failed : Bool)
  /-- The next item is received and begins to run. -/
  | receive
  | itemReturns
  /-- All items of the batch have run. -/
  | loopEnds
  | postRunReturns
  | stop
  | stopReceived

namespace Batcher

def push (b : Batcher α) (item : α) : Except String (Batcher α) :=
  if b.itemsCh.length < b.cfg.size.toNat then .ok { b with itemsCh := b.itemsCh ++ [item] }
  else .error "failed to push item, channel is full"

/-- A batch begins where there are items; its size is fixed before anything else is done. -/
def onTick (b : Batcher α) : Batcher α :=
  if 0 < b.itemsCh.length then
    { b with
      batches := b.batches + 1
      loop := if b.cfg.preRunCb then .inPreRun b.itemsCh.length else .draining b.itemsCh.length }
  else b

def next? (b : Batcher α) : BatcherStep α → Option (Batcher α)
  | .push item => some (match b.push item with | .ok pushed => pushed | .error _ => b)
  | .start => if b.loop = .notStarted then some { b with loop := .selecting } else none
  | .tick => if b.loop = .selecting then some b.onTick else none
  | .preRunReturns failed =>
    match b.loop with
    | .inPreRun batchSize => some { b with loop := if failed then .selecting else .draining batchSize }
    | _ => none
  | .receive =>
    match b.loop, b.itemsCh with
    | .draining (left + 1), _ :: items => some { b with itemsCh := items, loop := .inItem left }
    | _, _ => none
  | .itemReturns =>
    match b.loop with
    | .inItem left => some { b with loop := .draining left }
    | _ => none
  | .loopEnds =>
    if b.loop = .draining 0 then some { b with loop := if b.cfg.postRunCb then .inPostRun else .selecting } else none
  | .postRunReturns => if b.loop = .inPostRun then some { b with loop := .selecting } else none
  | .stop => if b.stopCh then none else some { b with stopCh := true }
  | .stopReceived => if b.loop = .selecting ∧ b.stopCh = true then some { b with loop := .returned } else none

end Batcher

/-! ### What is seen of a batcher -/

inductive BatchEvent (α : Type) where
  | preRun (num : Nat) (failed : Bool)
  | run (num : Nat) (item : α)
  | postRun (num : Nat)
  deriving DecidableEq

/-- The items that were accepted, and what was run, oldest first. -/
structure BatcherHistory (α : Type) where
  accepted : List α
  events : List (BatchEvent α)

namespace BatcherHistory

def empty : BatcherHistory α := ⟨[], []⟩

def add (h : BatcherHistory α) (event : BatchEvent α) : BatcherHistory α := { h with events := h.events ++ [event] }

def note (h : BatcherHistory α) (b : Batcher α) (step : BatcherStep α) (_ : Batcher α) : BatcherHistory α :=
  match step with
  | .push item =>
    match b.push item with
    | .ok _ => { h with accepted := h.accepted ++ [item] }
    | .error _ => h
  | .preRunReturns failed => h.add (.preRun b.batches failed)
  | .receive =>
    match b.itemsCh with
    | item :: _ => h.add (.run b.batches item)
    | [] => h
  | .loopEnds => if b.cfg.postRunCb then h.add (.postRun b.batches) else h
  | _ => h

end BatcherHistory

/-- A batcher as it was made, with what is seen of it from then on. -/
def batcherRuns (made : Batcher α) : System (Batcher α × BatcherHistory α) (BatcherStep α) :=
  System.observed ⟨(· = made), Batcher.next?⟩ .empty BatcherHistory.note

/-- A batch: nothing is run of one whose callback fails. -/
inductive BatchRun (α : Type) where
  | refused (num : Nat)
  | done (num : Nat) (items : List α)
  deriving DecidableEq

namespace BatchRun

def num : BatchRun α → Nat
  | .refused num => num
  | .done num _ => num

def items : BatchRun α → List α
  | .refused _ => []
  | .done _ items => items

end BatchRun

namespace Config

/-- The events of a batch until its items have run. -/
def opened (cfg : Config) (num : Nat) (items : List α) : List (BatchEvent α) :=
  (if cfg.preRunCb then [.preRun num false] else []) ++ items.map (.run num)

def events (cfg : Config) : BatchRun α → List (BatchEvent α)
  | .refused num => [.preRun num true]
  | .done num items => cfg.opened num items ++ if cfg.postRunCb then [.postRun num] else []

end Config

/-- The items of a batch that have run, and how many are still to be run, while one is running. -/
def Loop.left? : Loop → Option Nat
  | .draining left => some left
  | .inItem left => some left
  | _ => none

/-- The events are those of batches one after the other, the last of which may
be running. Of the accepted items, in their order, those not run are in the queue. -/
structure Orderly (b : Batcher α) (h : BatcherHistory α) (past : List (BatchRun α)) (current : List α) : Prop where
  events : h.events = past.flatMap b.cfg.events ++ if b.loop.left?.isSome then b.cfg.opened b.batches current else []
  accepted : h.accepted = past.flatMap BatchRun.items ++ current ++ b.itemsCh
  idle : b.loop.left? = none → current = []
  bounded : b.itemsCh.length ≤ b.cfg.size.toNat
  /-- What a batch has still to run is in the queue. -/
  filled : ∀ left, b.loop.left? = some left ∨ b.loop = .inPreRun left → left ≤ b.itemsCh.length
  /-- Batches have numbers of their own. -/
  numbered : (past.map BatchRun.num).Pairwise (· < ·)
  last : ∀ run ∈ past, run.num ≤ b.batches ∧ (b.loop.left?.isSome ∨ (∃ size, b.loop = .inPreRun size) → run.num < b.batches)

end Calls.Batching
