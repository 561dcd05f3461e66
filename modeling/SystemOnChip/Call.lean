import SystemOnChip.Fault

/-! Calls on a composition under construction. A call ends with a value or a
fault; either way it leaves a state behind and has emitted the events of its
log. A verdict is the part of a call that only looks at the state. -/
namespace SystemOnChip

inductive Level where
  | error
  | info
  | debug
deriving DecidableEq

structure Event where
  level : Level
  message : String
deriving DecidableEq

/-- What a computation without state answers, and the events it emits. -/
structure Verdict (α : Type) where
  result : Except Fault α
  log : List Event := []

namespace Verdict
variable {α β : Type}

def bind (verdict : Verdict α) (next : α → Verdict β) : Verdict β :=
  match verdict.result with
  | .ok value =>
    let second := next value
    ⟨second.result, verdict.log ++ second.log⟩
  | .error fault => ⟨.error fault, verdict.log⟩

instance : Monad Verdict where
  pure value := ⟨.ok value, []⟩
  bind := bind

def emit (level : Level) (message : String) : Verdict Unit := ⟨.ok (), [⟨level, message⟩]⟩

def info : String → Verdict Unit := emit .info

/-- Fails without a word in the log. -/
def fail (fault : Fault) : Verdict α := ⟨.error fault, []⟩

/-- Fails with an error event of the given text. -/
def failWith (message : String) (fault : Fault) : Verdict α := ⟨.error fault, [⟨.error, message⟩]⟩

def require (condition : Bool) (fault : Fault) : Verdict Unit :=
  if condition then pure () else fail fault

/-- A failing verdict ends with one error event: the fault and a dump of the
tables it was passed on. -/
def orDump (verdict : Verdict α) (dump : String) : Verdict α :=
  match verdict.result with
  | .ok _ => verdict
  | .error fault => ⟨.error fault, verdict.log ++ [⟨.error, s!"{fault.message}\n{dump}"⟩]⟩

end Verdict

/-- A verdict together with the state that a call leaves. -/
structure Outcome (σ α : Type) extends Verdict α where
  state : σ

/-- A call takes the state it finds to its outcome. -/
def Call (σ α : Type) : Type := σ → Outcome σ α

namespace Call
variable {σ τ α β : Type}

/-- The next call runs on the state that the first one left, and only if that
one succeeded. -/
def bind (call : Call σ α) (next : α → Call σ β) : Call σ β := fun state =>
  let first := call state
  match first.result with
  | .ok value =>
    let second := next value first.state
    ⟨⟨second.result, first.log ++ second.log⟩, second.state⟩
  | .error fault => ⟨⟨.error fault, first.log⟩, first.state⟩

instance : Monad (Call σ) where
  pure value state := ⟨⟨.ok value, []⟩, state⟩
  bind := bind

def current : Call σ σ := fun state => ⟨⟨.ok state, []⟩, state⟩

def update (change : σ → σ) : Call σ Unit := fun state => ⟨⟨.ok (), []⟩, change state⟩

/-- Asks for a verdict on the state and leaves it as it is. -/
def ask (question : σ → Verdict α) : Call σ α := fun state => ⟨question state, state⟩

def info (message : String) : Call σ Unit := fun state => ⟨⟨.ok (), [⟨.info, message⟩]⟩, state⟩

/-- Runs a call on a part of the state. -/
def on (part : σ → τ) (put : τ → σ → σ) (call : Call τ α) : Call σ α := fun state =>
  let outcome := call (part state)
  ⟨outcome.toVerdict, put outcome.state state⟩

/-- The state that a call makes of a first one, if it succeeds. -/
def completed (call : Call σ Unit) (initial : σ) : Verdict σ :=
  let outcome := call initial
  ⟨outcome.result.map fun _ => outcome.state, outcome.log⟩

end Call

end SystemOnChip
