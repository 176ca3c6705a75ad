import ErDiagram.Event
import ErDiagram.Message.Catalog

set_option autoImplicit false

/-!
# Readings and stages

A reader answers with a result and with the events it recorded on the way; the events stand even if
the result is a fault.  A document is read in stages, which go on past the units that have a fault.
-/

namespace ErDiagram

/-! ## Readings

Most faults are causes of errors in the document.  The others come from callers that misuse a reader,
and no document gives rise to them. -/

/-- Why a reader has no result. -/
inductive ReadFault where
  /-- the document is wrong, on this line -/
  | cause (c : Cause) (line : Option Line)
  /-- an option map is asked for something that it cannot hold -/
  | option (fault : OptionFault)
  /-- something has to be recorded about a line, and there is none -/
  | lineMissing
  deriving DecidableEq, Repr, Inhabited

/-- What a reader answers. -/
structure Reading (α : Type) where
  log : List Event
  result : Except ReadFault α
  deriving Inhabited

namespace Reading

variable {α β : Type}

/-- A result with nothing recorded. -/
def done (a : α) : Reading α := ⟨[], .ok a⟩

/-- A fault with nothing recorded. -/
def fail (fault : ReadFault) : Reading α := ⟨[], .error fault⟩

/-- Reads on from a result; what was recorded before comes first. -/
def andThen (r : Reading α) (next : α → Reading β) : Reading β :=
  match r.result with
  | .error fault => ⟨r.log, .error fault⟩
  | .ok a => ⟨r.log ++ (next a).log, (next a).result⟩

instance : Monad Reading where
  pure := done
  bind := andThen

/-- Records events. -/
def record (events : List Event) : Reading Unit := ⟨events, .ok ()⟩

/-- The result of a reader that records nothing, with its cause put on a line. -/
def on (line : Option Line) : Except Cause α → Reading α
  | .ok a => done a
  | .error c => fail (.cause c line)

/-- Fails with a cause on a line, if there is one. -/
def refuse (line : Option Line) : Option Cause → Reading Unit
  | none => done ()
  | some c => fail (.cause c line)

@[simp] theorem pure_result (a : α) : (pure a : Reading α).result = .ok a := rfl

@[simp] theorem bind_result (r : Reading α) (next : α → Reading β) :
    (r >>= next).result = (match r.result with
      | .error fault => .error fault
      | .ok a => (next a).result) := by
  change (andThen r next).result = _
  unfold andThen
  cases r.result <;> rfl

@[simp] theorem on_result (line : Option Line) (x : Except Cause α) :
    (on line x).result = (match x with
      | .error c => .error (.cause c line)
      | .ok a => .ok a) := by
  cases x <;> rfl

end Reading

/-! ## Stages

A stage goes through its units one after the other, puts what is wrong with each into words, and goes on
with the next.  It halts only where a fault cannot be put into words. -/

/-- Why reading a document halts without an answer about the document. -/
inductive Halt where
  /-- an error cannot be worded -/
  | wording (fault : WordingFault)
  /-- an option map is asked for something that it cannot hold -/
  | option (fault : OptionFault)
  /-- something has to be recorded about a line, and there is none -/
  | lineMissing
  deriving DecidableEq, Repr, Inhabited

/-- Puts a fault into words, if it is an error of the document. -/
def Catalog.describe (c : Catalog) : ReadFault → Except Halt Report
  | .cause cause line =>
    match c.report cause line with
    | .ok r => .ok r
    | .error fault => .error (.wording fault)
  | .option fault => .error (.option fault)
  | .lineMissing => .error .lineMissing

/-- A stage under way: what has been built, what was recorded and which errors were found. -/
structure Stage (σ : Type) where
  state : σ
  log : List Event := []
  reports : List Report := []
  deriving Inhabited

/-- What one unit does to a stage: the state behind it, what it recorded, and its fault, if any. -/
structure StageStep (σ : Type) where
  state : σ
  log : List Event := []
  fault : Option ReadFault := none
  deriving Inhabited

/-- A stage that halts: the state that it leaves, what was recorded, and why it halts. -/
structure StageHalt (σ : Type) where
  state : σ
  log : List Event
  cause : Halt
  deriving Inhabited

namespace Stage

variable {σ α : Type}

/-- The stage behind a unit, with these reports. -/
def past (stage : Stage σ) (step : StageStep σ) (reports : List Report) : Stage σ :=
  ⟨step.state, stage.log ++ step.log, reports⟩

/-- Takes a stage past one unit. -/
def advance (c : Catalog) (stage : Stage σ) (step : StageStep σ) : Except (StageHalt σ) (Stage σ) :=
  match step.fault with
  | none => .ok (stage.past step stage.reports)
  | some fault =>
    match c.describe fault with
    | .ok report => .ok (stage.past step (stage.reports ++ [report]))
    | .error cause => .error ⟨step.state, stage.log ++ step.log, cause⟩

/-- Takes a stage past units, one after the other. -/
def through (c : Catalog) (step : σ → α → StageStep σ) :
    Stage σ → List α → Except (StageHalt σ) (Stage σ)
  | stage, [] => .ok stage
  | stage, unit :: rest =>
    match advance c stage (step stage.state unit) with
    | .error halt => .error halt
    | .ok next => through c step next rest

end Stage

end ErDiagram
