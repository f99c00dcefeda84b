import Vitals.Pipeline.Exporter
import Vitals.Log.Rotating
import Vitals.Simulation.Run

/-!
# An exporter in a scripted world

To run a whole exporter on virtual time, everything around it has to be laid down: what scrapes
bring and how long they take, how the transport fares, and the disk that snapshots are saved on.
This file fixes

* `Plan`, what the world does, and `World`, an exporter in it;
* `Task`, what runs on its own, and `World.number`: tasks are numbered in the order in which they
  begin, and a crash tells the number of its task;
* `World.machine`, whose moves are those of the exporter and those of the world that are due. At
  the end of the grace both stages give up before anything else happens, and a window that ends
  when a scrape starts ends first.

Snapshots are stamped with a clock that never shows the same time twice.
-/

namespace Vitals.Simulation

open Vitals.Log

/-! ## 1. The world -/

/-- A scrape: how long it takes, and what it brings unless it breaks off. -/
structure ScrapePlan where
  delay : Nat
  brings : Option Scrape
  deriving Repr

/-- How serving ends. -/
inductive ServePlan where
  | returns
  | fails (fault : Fault)
  | breaksOff
  deriving DecidableEq, Repr

structure Plan where
  /-- The scrapes, which start over when they are used up. -/
  scrapes : List ScrapePlan
  binding : Except Fault Unit := .ok ()
  /-- When serving ends, counted from its start, and how; otherwise it goes on. -/
  serving : Option (Nat × ServePlan) := none
  /-- The saves that break off, by their number. -/
  crashingSaves : List Nat := []
  /-- What a task that breaks off says. -/
  crashMessage : String := ""
  deriving Repr

/-- The tasks that there are. -/
inductive Task where
  /-- A run of the exporter, or a request to the registry. -/
  | call (n : Nat)
  | serving
  | aggregation
  | relay
  | stage (s : Stage)
  | scrape (id : Nat)
  | save (id : Nat)
  deriving DecidableEq, Repr

/-- The tasks of a flow that starts, in the order in which they begin. -/
def Task.ofStart : List Task :=
  [.serving, .aggregation, .relay] ++ Stage.all.map .stage

structure World where
  plan : Plan
  exporter : Exporter
  /-- When the scrapes under way end. -/
  scrapeEnds : List (Nat × Nat) := []
  /-- When serving ends. -/
  servingEnds : Option Nat := none
  log : RotatingLog
  disk : Disk
  /-- Whether saves that begin now do not end for the time being. -/
  holding : Bool := false
  /-- The saves that were held back. -/
  held : List Nat := []
  savesEnded : Nat := 0
  /-- The number of windows closed. -/
  stamps : Nat := 0
  /-- The tasks that have begun, the last one first. -/
  tasks : List Task := []

namespace World

def flow? (w : World) : Option Flow :=
  w.exporter.flow

def savesStarted (w : World) : Nat :=
  w.flow?.elim 0 Flow.savesStarted

def scrapesStarted (w : World) : Nat :=
  w.flow?.elim 0 Flow.scrapesStarted

/-- The wall-clock time at an instant, later with every window that was closed. -/
def stamp (w : World) (now : Nat) : Moment :=
  Moment.ofUnixNanos (1700000000 * 1000000000 + now + w.stamps)

/-- Saves that begin from now on are held back. -/
def hold (w : World) : World :=
  { w with holding := true }

/-- Saves that were held back go on. -/
def release (w : World) : World :=
  { w with holding := false, held := [] }

/-- A task begins. -/
def beginTask (w : World) (task : Task) : World :=
  { w with tasks := task :: w.tasks }

/-- The number of a task, which counts the tasks up to it. -/
def number (w : World) (task : Task) : Nat :=
  (w.tasks.dropWhile (· != task)).length

/-- The next task gets the next number, from 1 on. -/
theorem number_beginTask_self (w : World) (task : Task) :
    (w.beginTask task).number task = w.tasks.length + 1 := by
  simp [number, beginTask]

/-- A task keeps its number when another one begins. -/
theorem number_beginTask_of_ne (w : World) {task other : Task} (h : other ≠ task) :
    (w.beginTask other).number task = w.number task := by
  simp [number, beginTask, h]

/-- A task breaks off. -/
def crash (w : World) (task : Task) : Crash :=
  ⟨w.number task, w.plan.crashMessage⟩

/-! ## 2. Moves -/

inductive Move where
  /-- A move of the exporter. -/
  | own (move : Exporter.Move)
  /-- The window ends. -/
  | fire
  | scrapeOver (id : Nat)
  | serveOver
  | saveOver (id : Nat)
  deriving Repr

/-- Takes note of a flow that has started. -/
def noteStart (now : Nat) (before w : World) : World :=
  match before.flow?, w.flow? with
  | none, some _ =>
    { Task.ofStart.foldl beginTask w with
      servingEnds := w.plan.serving.map fun (after, _) => now + after }
  | _, _ => w

/-- Takes note of a scrape that has begun. -/
def noteScrape (now : Nat) (before w : World) : World :=
  let id := before.scrapesStarted
  if id < w.scrapesStarted then
    let delay := (w.plan.scrapes[id % w.plan.scrapes.length]?).elim 0 ScrapePlan.delay
    { w.beginTask (.scrape id) with scrapeEnds := w.scrapeEnds ++ [(id, now + delay)] }
  else w

/-- Takes note of a save that has begun. -/
def noteSave (before w : World) : World :=
  let id := before.savesStarted
  if id < w.savesStarted then
    { w.beginTask (.save id) with held := if w.holding then w.held ++ [id] else w.held }
  else w

/-- Takes note of what has begun. -/
def note (now : Nat) (before w : World) : World :=
  noteSave before (noteScrape now before (noteStart now before w))

/-- A move of the exporter, with what it begins. -/
def stepOwn (now : Nat) (w : World) (move : Exporter.Move) :
    Option (World × List Exporter.Outcome) :=
  (w.exporter.step now move).map fun (exporter, out) => (note now w { w with exporter }, out)

/-- A scrape ends as planned. -/
def endScrape (now : Nat) (w : World) (id : Nat) : Option (World × List Exporter.Outcome) := do
  let ends ← w.scrapeEnds.lookup id
  let plan ← w.plan.scrapes[id % w.plan.scrapes.length]?
  let rest : World := { w with scrapeEnds := w.scrapeEnds.filter fun s => s.1 != id }
  let how : Flow.ScrapeEnding := plan.brings.elim (.crashed (w.crash (.scrape id))) .brought
  if now < ends then none else rest.stepOwn now (.flow (.scrapeEnds id how))

/-- A save that is not held back writes to the disk. -/
def endSave (now : Nat) (w : World) (id : Nat) : Option (World × List Exporter.Outcome) := do
  let f ← w.flow?
  let job ← f.jobs.find? fun j => j.id == id
  let ended : World := { w with savesEnded := w.savesEnded + 1 }
  let (result, log, disk) := w.log.save (String.ofList job.record).toUTF8.toList job.stamp w.disk
  let how : Flow.SaveEnding :=
    match result with
    | .ok () => .saved
    | .error fault => .failed fault
  if w.held.contains id then none
  else if w.plan.crashingSaves.contains id then
    ended.stepOwn now (.flow (.saveEnds id (.crashed (w.crash (.save id)))))
  else
    let saved : World := { ended with log, disk }
    saved.stepOwn now (.flow (.saveEnds id how))

def step (now : Nat) (w : World) : Move → Option (World × List Exporter.Outcome)
  | .own move => w.stepOwn now move
  | .fire =>
    { w with stamps := w.stamps + 1 }.stepOwn now (.flow (.aggregate (.fire (w.stamp now))))
  | .scrapeOver id => w.endScrape now id
  | .serveOver =>
    match w.servingEnds, w.plan.serving with
    | some ends, some (_, plan) =>
      let how : Flow.ServeEnding :=
        match plan with
        | .returns => .returned
        | .fails fault => .failed fault
        | .breaksOff => .crashed (w.crash .serving)
      if now < ends then none
      else { w with servingEnds := none }.stepOwn now (.flow (.serveEnds how))
    | _, _ => none
  | .saveOver id => w.endSave now id

/-- The moves in the order in which they are tried when time stands still. -/
def moves (w : World) : List Move :=
  let consumer (move : Consumer.Move) : List Move :=
    [.own (.flow (.storage move)), .own (.flow (.streaming move))]
  let tasks : List Nat := w.flow?.elim [] fun f => f.scrapes.map Flow.ScrapeTask.id
  let jobs : List Nat := w.flow?.elim [] fun f => f.jobs.map Flow.SaveJob.id
  consumer .observe ++ consumer .expire ++ consumer .check ++ consumer .look ++ consumer .abandon
    ++ [.own (.bind w.plan.binding), .own .seeShutdown, .serveOver, .own .seeServing,
      .own (.flow (.aggregate .halt)), .fire, .own (.flow .tick)]
    ++ tasks.map .scrapeOver ++ tasks.map (fun id => .own (.flow (.join id)))
    ++ [.own (.flow (.aggregate .send)),
      .own (.flow (.relay .read)), .own (.flow (.relay (.offer 0))),
      .own (.flow (.relay (.offer 1))), .own (.flow (.relay .settle))]
    ++ jobs.map .saveOver
    ++ consumer .receive ++ consumer .complete ++ consumer .finish
    ++ [.own (.flow .close)]
    ++ Registry.ownMoves.map (fun move => .own (.guest move))
    ++ [.own .collect, .own .conclude]

/-- The instants at which something is due. -/
def due (w : World) : List Nat :=
  w.exporter.due ++ w.scrapeEnds.map (·.2) ++ w.servingEnds.toList

def machine : Machine World Move Exporter.Outcome where
  step := step
  moves := moves
  due := due

/-- The files on the disk, in the order in which they were made, with whether they were put
aside. -/
def files (w : World) : List (Bool × List UInt8) :=
  let ofId (id : FileId) : Option (Bool × List UInt8) := do
    let (place, _) ← w.disk.entries.find? fun e => e.2 == .file id
    let name ← place.getLast?
    return ((name.toList.filter (· = '-')).length == 2, w.disk.content id)
  (List.range w.disk.contents.length).filterMap ofId

end World

end Vitals.Simulation
