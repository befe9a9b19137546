import SearchBuilder.Session.Object

/-!
# Operands

What is written where an argument is expected: a value, a list, a name, a node to be built on the
spot, a foreign object that has the category and fragment of a node, or something else. Operands
are evaluated from left to right before the call that they belong to; the first that fails ends it.

Operands are all that a program can pass: no operand is an answer that an earlier step gave, so a
list or an object that a node has answered is never handed on to another call.
-/

namespace SearchBuilder

/-- An expression for an argument. -/
inductive Operand where
  | plain (value : Json)
  | list (items : List Operand)
  | ref (name : String)
  /-- A fresh object after some calls with positional arguments. -/
  | fresh (kind : Kind) (positional : List Operand) (named : List (String × Operand))
    (calls : List (String × List Operand))
  | foreign (child : Child)
  | other

/-- The operands of a call. -/
structure Operands where
  positional : List Operand := []
  named : List (String × Operand) := []

/-- Why operands have no value. -/
inductive OperandFault where
  | unbound (name : String)
  | fault (fault : Fault)
  deriving DecidableEq, Repr

/-- A computation that may fail and that logs messages either way. -/
abbrev Logged (ε α : Type) := Except ε α × List Notice

namespace Logged

variable {ε α β : Type}

/-- A value without messages. -/
def pure (a : α) : Logged ε α := (.ok a, [])

/-- A failure without messages. -/
def fail (e : ε) : Logged ε α := (.error e, [])

/-- Goes on with the value of a computation, unless it failed. -/
def bind (x : Logged ε α) (f : α → Logged ε β) : Logged ε β :=
  match x with
  | (.error e, notices) => (.error e, notices)
  | (.ok a, notices) =>
    let (result, more) := f a
    (result, notices ++ more)

/-- The object after a call, if the call succeeded. -/
def ofOutcome {σ : Type} (o : Outcome σ) : Logged OperandFault σ :=
  ((o.answer.map fun _ => o.state).mapError .fault, o.notices)

end Logged

/-- What operands are evaluated in. -/
structure Scope where
  /-- The argument that a name stands for in a call on a receiver. -/
  look : Option String → String → Option Argument
  /-- The most digits of a whole number in a text. -/
  digits : DigitLimit

namespace Operand

mutual

/-- The argument that an operand stands for. To what happens to a fresh object, the receiver is a
node like any other. -/
def eval (scope : Scope) (receiver : Option String) : Operand → Logged OperandFault Argument
  | .plain value => .pure (.plain value)
  | .list items => (evalList scope receiver items).bind fun items => .pure (.list items)
  | .ref name =>
    match scope.look receiver name with
    | some argument => .pure argument
    | none => .fail (.unbound name)
  | .fresh kind positional named calls =>
    (evalList scope none positional).bind fun positional =>
      (evalNamed scope none named).bind fun named =>
        (Logged.ofOutcome (Object.build kind { positional, named })).bind fun object =>
          (evalCalls scope object calls).bind fun object => .pure (.node object.toChild)
  | .foreign child => .pure (.node child)
  | .other => .pure .other

/-- The arguments that operands stand for. -/
def evalList (scope : Scope) (receiver : Option String) :
    List Operand → Logged OperandFault (List Argument)
  | [] => .pure []
  | operand :: rest =>
    (eval scope receiver operand).bind fun argument =>
      (evalList scope receiver rest).bind fun arguments => .pure (argument :: arguments)

/-- The arguments that named operands stand for. -/
def evalNamed (scope : Scope) (receiver : Option String) :
    List (String × Operand) → Logged OperandFault (List (String × Argument))
  | [] => .pure []
  | (name, operand) :: rest =>
    (eval scope receiver operand).bind fun argument =>
      (evalNamed scope receiver rest).bind fun arguments => .pure ((name, argument) :: arguments)

/-- Runs the calls on a fresh object. -/
def evalCalls (scope : Scope) (object : Object) :
    List (String × List Operand) → Logged OperandFault Object
  | [] => .pure object
  | (method, operands) :: rest =>
    (evalList scope none operands).bind fun positional =>
      (Logged.ofOutcome ((object.call method { positional }).written scope.digits)).bind
        fun object => evalCalls scope object rest

end

/-- The arguments that the operands of a call stand for. -/
def evalAll (scope : Scope) (receiver : Option String) (operands : Operands) :
    Logged OperandFault Arguments :=
  (evalList scope receiver operands.positional).bind fun positional =>
    (evalNamed scope receiver operands.named).bind fun named => .pure { positional, named }

end Operand

end SearchBuilder
