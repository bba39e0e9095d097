/-
**Taking turns.**

One way in which jobs and processes take turns: whatever job can take a step does, the first one
first; otherwise a process takes a step, which takes a little time; when all are waiting, time
passes until the first of them goes on.

* `Schedule.choose`: what happens next;
* `Schedule.drive`: the run that this leads to.
-/

import CalcBuild.Build.System

namespace CalcBuild

open Files

/-- A signal that the flag is raised with as soon as a path exists. -/
structure Watch where
  path : Bytes
  signal : Int32
  deriving DecidableEq, Repr

namespace Schedule

variable {State : Type}

/-- The time that one step of a process takes, in nanoseconds. -/
def stepTime : Nat := 1000

/-- Whether the flag has to be raised now. -/
def isDue (setting : Setting) (world : World) (watch : Watch) : Bool :=
  world.flag.raised.isNone && watch.signal != 0 &&
    world.files.pathExists setting.cwd watch.path

/-- Whether the process of a job runs and is awake. -/
def isAwake (clock : Nat) (job : Job State) : Bool :=
  match job.child? with
  | some (.running _ wakes) => wakes ≤ clock
  | _ => false

/-- The times at which a job or its process goes on by itself. -/
def alarms (builder : Builder) (job : Job State) : List Nat :=
  let wake := match job.child? with
    | some (.running _ wakes) => [wakes]
    | _ => []
  (job.stage?.bind (·.due? builder.stageOptions)).toList ++ wake

/-- The choices that come next; none if nothing can happen any more. -/
def choose (setting : Setting) (builder : Builder) (watch? : Option Watch)
    (system : System State) : List Choice :=
  let clock := system.world.clock
  let due := match watch? with
    | some watch => if isDue setting system.world watch then some watch.signal else none
    | none => none
  match due with
  | some signal => [.raise signal]
  | none =>
    if system.isFinished then []
    else
      let able? :=
        if system.endedBy?.isSome then none
        else List.findIdx? (fun job => job.isAble builder clock) system.jobs
      match able? with
      | some index => [.job index]
      | none =>
        match List.findIdx? (isAwake clock) system.jobs with
        | some index => [.child index, .pass stepTime]
        | none =>
          match ((system.jobs.flatMap (alarms builder)).filter (clock < ·)).min? with
          | some time => [.pass (time - clock)]
          | none => []

/-- The run in which jobs and processes take turns, for at most `steps` turns. -/
def drive (programs : Programs State) (setting : Setting) (builder : Builder)
    (watch? : Option Watch) (steps : Nat) (system : System State) : System State :=
  match steps with
  | 0 => system
  | more + 1 =>
    match choose setting builder watch? system with
    | [] => system
    | choices =>
      drive programs setting builder watch? more
        (system.run programs setting builder choices)

end Schedule

end CalcBuild
