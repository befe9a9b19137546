import SearchBuilder.Session

/-!
# Programs

A program is a list of steps. All of its steps run, also after one that failed. Steps pass values,
nodes and clients, but never what an earlier step answered; so no two documents share a part. The
answers are looked at when the program is over: a part of an object that a step answered is then
shown with what later steps put into it, up to the step that took it out of the object.
-/

namespace SearchBuilder

/-- The fragment of an object. -/
def Object.fragment (o : Object) : Json := o.toNode.fragment

namespace Session

/-- The results of steps as they are when each of them is done. -/
def runSteps (s : Session) : List Step → List StepResult
  | [] => []
  | first :: rest =>
    let result := s.step first
    result :: runSteps result.session rest

/-- The value that the part at a path of a named object has after later steps. -/
def settlePart (name : String) (path : Path) (value : Json) : List StepResult → Json
  | [] => value
  | later :: rest =>
    match later.subject with
    | none => settlePart name path value rest
    | some (subject, object) =>
      if subject = name then
        match Shift.followAll path later.shifts with
        | some path => settlePart name path ((object.fragment.part? path).getD value) rest
        | none => value
      else settlePart name path value rest

/-- A result with the value that its answer has after later steps. -/
def settle (result : StepResult) (later : List StepResult) : StepResult :=
  match result.response, result.subject with
  | .ok (.part path value), some (name, _) =>
    { result with response := .ok (.part path (settlePart name path value later)) }
  | _, _ => result

/-- The results of steps as they are when all of them are done. -/
def settleAll : List StepResult → List StepResult
  | [] => []
  | result :: later => settle result later :: settleAll later

/-- Runs a program from a session on. -/
def run (s : Session) (steps : List Step) : List StepResult := settleAll (s.runSteps steps)

end Session

end SearchBuilder
