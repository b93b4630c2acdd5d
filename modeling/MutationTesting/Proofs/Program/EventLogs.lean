import MutationTesting.Linking.LoadedProgram
import MutationTesting.Proofs.Program.Correspondence
import MutationTesting.Proofs.Recording.UnknownCalls

/-! Runs with a log of what they report. Code is read a second time, with every report to the
recorder written down in its order. Forgetting the log gives the run as it is, and the log is what
the recorder has been told: no other reports reach it.
-/

namespace MutationTesting

/-- A computation in a process together with the events that it reports, in order. -/
def Logged (α : Type) : Type := ProcessState → (Except Stop α × ProcessState) × List CallEvent

namespace Logged

/-- A computation that reports nothing. -/
def silent (computation : Exec α) : Logged α := fun process => (computation process, [])

/-- One event that is reported. -/
def report (event : CallEvent) : Logged Unit := fun process =>
  ((.ok (), { process with recorder := process.recorder.step event }), [event])

/-- What follows a computation that answers; its events come after those reported before. -/
def andThen (first : Logged α) (next : α → Logged β) : Logged β := fun process =>
  match first process with
  | ((.ok answer, after), events) =>
      let rest := next answer after
      (rest.1, events ++ rest.2)
  | ((.error reason, after), events) => ((.error reason, after), events)

instance : Monad Logged where
  pure answer := silent (pure answer)
  bind := andThen

theorem bind_ok {first : Logged α} {answer : α} {process after : ProcessState}
    {events : List CallEvent} (ran : first process = ((.ok answer, after), events))
    (next : α → Logged β)
    : (first >>= next) process = ((next answer after).1, events ++ (next answer after).2) := by
  change first.andThen next process = _
  rw [andThen, ran]

theorem bind_error {first : Logged α} {reason : Stop} {process after : ProcessState}
    {events : List CallEvent} (ran : first process = ((.error reason, after), events))
    (next : α → Logged β)
    : (first >>= next) process = ((.error reason, after), events) := by
  change first.andThen next process = _
  rw [andThen, ran]

theorem bind_pure_right (computation : Logged α)
    : (computation >>= fun answer => pure answer) = computation := by
  funext process
  rcases ran : computation process with ⟨⟨outcome, after⟩, events⟩
  cases outcome with
  | ok answer =>
      rw [bind_ok ran]
      exact congrArg (Prod.mk _) (List.append_nil events)
  | error reason => rw [bind_error ran]

theorem bind_grouped (first : Logged α) (next : α → Logged β) (last : β → Logged γ)
    : (first >>= next >>= last) = first >>= fun answer => next answer >>= last := by
  funext process
  rcases ran : first process with ⟨⟨outcome, after⟩, events⟩
  cases outcome with
  | error reason => rw [bind_error ran, bind_error (bind_error ran _)]
  | ok answer =>
      have two := bind_ok ran next
      rw [bind_ok ran]
      rcases ranToo : next answer after with ⟨⟨outcome, later⟩, others⟩
      rw [ranToo] at two
      cases outcome with
      | error reason => rw [bind_error two, bind_error ranToo]
      | ok middle =>
          rw [bind_ok two, bind_ok ranToo]
          exact congrArg (Prod.mk _) (List.append_assoc events others _)

instance : LawfulMonad Logged :=
  LawfulMonad.mk' Logged bind_pure_right (fun _ _ => rfl) bind_grouped

/-- The answer of a computation or its fault, as far as code can go on after it. -/
def catchFault (computation : Logged α) : Logged (Except Fault α) := fun process =>
  let ran := computation process
  ((Exec.caught ran.1.1, ran.1.2), ran.2)

/-- The computation without its log. -/
def forget (computation : Logged α) : Exec α := fun process => (computation process).1

/-- The recorder has been told what the log says, and nothing else. -/
def Faithful (computation : Logged α) : Prop :=
  ∀ process,
    (computation process).1.2.recorder = process.recorder.run (computation process).2

end Logged

-----------------------------------------------------------------------------------------
-- Code with a log
-----------------------------------------------------------------------------------------

/-- What calls do and report. -/
abbrev LoggedHandler : Type := CallTarget → List Int64 → Logged Int64

namespace Body

def recordLogged (args : List Int64) (event : Nat → CallEvent) : Logged Int64 := do
  let value ← Logged.silent (operandAt args 0)
  Logged.report (event (functionNumber value))
  pure 0

def countdownLogged (step : Int64 → Logged Int64)
    : (room : Nat) → (value count : Int64) → Logged Int64
  | room, value, count =>
      if value ≤ 0 then
        pure count
      else
        match room with
        | 0 => do
            let _ ← step value
            Logged.silent (Exec.panicText "attempt to add with overflow")
        | room + 1 => do
            let next ← step value
            countdownLogged step room next (count + 1)

mutual

/-- The value of a body with a log. What consists of no other bodies reports nothing, the two
reports apart.
-/
def evalLogged (call : LoggedHandler) (args : List Int64) : Body → Logged Int64
  | .wrapping op left right => do
      let left ← evalLogged call args left
      let right ← evalLogged call args right
      Logged.silent
        (match op.wrapping left right with
          | .ok value => pure value
          | .error fault => Exec.fault fault)
  | .checked op left right => do
      let left ← evalLogged call args left
      let right ← evalLogged call args right
      Logged.silent
        (match op.checked left right with
          | .ok value => pure value
          | .error payload => Exec.stop (.panic payload))
  | .select condition yes no => do
      let value ← evalLogged call args condition
      if value ≠ 0 then evalLogged call args yes else evalLogged call args no
  | .call name callArgs => do
      let values ← evalAllLogged call args callArgs
      call (.symbol name) values
  | .callAddress raw callArgs => do
      let values ← evalAllLogged call args callArgs
      if raw = 0 then
        Logged.silent (Exec.fault (.abort "null address"))
      else
        call (.address raw) values
  | .sequence parts => do
      let values ← evalAllLogged call args parts
      pure (values.getLast?.getD 0)
  | .recover body fallback => do
      match ← Logged.catchFault (evalLogged call args body) with
      | .ok value => pure value
      | .error _ => evalLogged call args fallback
  | .cleanup body last => do
      let outcome ← Logged.catchFault (evalLogged call args body)
      let _ ← evalLogged call args last
      Logged.silent
        (match outcome with
          | .ok value => pure value
          | .error fault => Exec.fault fault)
  | .countSteps start step => do
      let value ← evalLogged call args start
      countdownLogged (fun value => evalLogged call [value] step) Int64.maxValue.toInt.toNat value 0
  | .recordEnter => recordLogged args .enter
  | .recordLeave => recordLogged args .leave
  | .const value => pure value
  | body => Logged.silent (eval (fun _ _ => Exec.stop .unfinished) args body)

def evalAllLogged (call : LoggedHandler) (args : List Int64) : List Body → Logged (List Int64)
  | [] => pure []
  | body :: rest => do
      let value ← evalLogged call args body
      let values ← evalAllLogged call args rest
      pure (value :: values)

end

end Body

namespace LoadedProgram

/-- A call with a log, which may nest further calls to the given depth. -/
def callLoggedWithin (program : LoadedProgram) : (depth : Nat) → LoggedHandler
  | 0, _, _ => Logged.silent (Exec.stop .unfinished)
  | depth + 1, target, args =>
      match program.callee target with
      | .ok body => body.evalLogged (program.callLoggedWithin depth) args
      | .error fault => Logged.silent (Exec.fault fault)

end LoadedProgram

-----------------------------------------------------------------------------------------
-- Code with and without a log side by side
-----------------------------------------------------------------------------------------

/-- A computation leaves the recorder as it is. -/
def Exec.KeepsRecorder (computation : Exec α) : Prop :=
  ∀ process, (computation process).2.recorder = process.recorder

/-- What is required of a computation with a log and of one without holds of computations that
report nothing, and of computations whose parts have it.
-/
structure Logged.Congruence (alike : (α : Type) → Logged α → Exec α → Prop) : Prop where
  silent
    : ∀ {α : Type} {computation : Exec α},
        computation.KeepsRecorder → alike α (.silent computation) computation
  bind
    : ∀ {α β : Type} {logged : Logged α} {plain : Exec α} {next : α → Logged β}
        {other : α → Exec β},
        alike α logged plain
        → (∀ answer, alike β (next answer) (other answer))
        → alike β (logged >>= next) (plain >>= other)
  catchFault
    : ∀ {α : Type} {logged : Logged α} {plain : Exec α},
        alike α logged plain → alike _ logged.catchFault (Exec.catchFault plain)

/-- A report is required to be alike with and without a log. -/
def Logged.ReportsAlike (alike : (α : Type) → Logged α → Exec α → Prop) : Prop :=
  ∀ event,
    alike Unit (.report event)
      (Exec.change fun process => { process with recorder := process.recorder.step event })

namespace Exec

theorem keepsRecorder_pure (answer : α) : KeepsRecorder (pure answer) := fun _ => rfl

theorem keepsRecorder_stop (reason : Stop) : KeepsRecorder (Exec.stop reason : Exec α) :=
  fun _ => rfl

theorem KeepsRecorder.bind {first : Exec α} {next : α → Exec β} (keeps : first.KeepsRecorder)
    (others : ∀ answer, (next answer).KeepsRecorder)
    : KeepsRecorder (first >>= next) := by
  intro process
  have own := keeps process
  rcases ran : first process with ⟨outcome, after⟩
  rw [ran] at own
  rw [bind_apply, ran]
  cases outcome with
  | ok answer => exact (others answer after).trans own
  | error reason => exact own

theorem keepsRecorder_wait (nanos : Nat) : KeepsRecorder (Exec.wait nanos) := by
  intro process
  rw [wait_apply]
  split
  · split <;> rfl
  · rfl

theorem keepsRecorder_write (stream : OutputStream) (bytes : List UInt8)
    : KeepsRecorder (Exec.write stream bytes) := by
  cases stream <;> exact fun _ => rfl

theorem keepsRecorder_raise (signal : Signal) : KeepsRecorder (Exec.raise signal) := by
  unfold Exec.raise
  cases signal.disposition <;> exact fun _ => rfl

end Exec

namespace Body

mutual

/-- No report is made by the body itself; what it calls may report. -/
def Reportless : Body → Prop
  | .const _ | .argCount | .arg _ | .operand _ => True
  | .wrapping _ left right | .checked _ left right => Reportless left ∧ Reportless right
  | .select condition yes no => Reportless condition ∧ Reportless yes ∧ Reportless no
  | .call _ args | .callAddress _ args => AllReportless args
  | .sequence parts => AllReportless parts
  | .recover body fallback => Reportless body ∧ Reportless fallback
  | .cleanup body last => Reportless body ∧ Reportless last
  | .countSteps start step => Reportless start ∧ Reportless step
  | .abort _ | .panic _ | .wait _ | .write _ _ | .exit _ | .raise _ => True
  | .recordEnter | .recordLeave => False

def AllReportless : List Body → Prop
  | [] => True
  | body :: rest => Reportless body ∧ AllReportless rest

end

variable {alike : (α : Type) → Logged α → Exec α → Prop} {allowed : CallTarget → Prop}
  {call : LoggedHandler} {other : CallHandler}

theorem keepsRecorder_operandAt (args : List Int64) (index : Nat)
    : (operandAt args index).KeepsRecorder := by
  unfold operandAt
  cases args[index]? <;> exact fun _ => rfl

theorem recordLogged_alike (congruence : Logged.Congruence alike)
    (reports : Logged.ReportsAlike alike) (args : List Int64) (event : Nat → CallEvent)
    : alike Int64 (recordLogged args event) (record args event) :=
  congruence.bind (congruence.silent (keepsRecorder_operandAt args 0)) fun value =>
    congruence.bind (reports (event (functionNumber value))) fun _ =>
      congruence.silent (Exec.keepsRecorder_pure 0)

/-- Counting down is alike when its steps are, by induction on the room that is left for the count.
-/
theorem countdownLogged_alike (congruence : Logged.Congruence alike)
    {step : Int64 → Logged Int64} {plain : Int64 → Exec Int64}
    (steps : ∀ value, alike Int64 (step value) (plain value)) (room : Nat) (value count : Int64)
    : alike Int64 (countdownLogged step room value count) (countdown plain room value count) := by
  induction room generalizing value count with
  | zero =>
      unfold countdownLogged countdown
      split
      · exact congruence.silent (Exec.keepsRecorder_pure count)
      · exact congruence.bind (steps value) fun _ =>
          congruence.silent (Exec.keepsRecorder_stop _)
  | succ room ih =>
      unfold countdownLogged countdown
      split
      · exact congruence.silent (Exec.keepsRecorder_pure count)
      · exact congruence.bind (steps value) fun value => ih value (count + 1)

mutual

/-- A body is alike with and without a log when the calls that it makes are, and its own reports are
or there are none. Witness: induction on the body.
-/
theorem evalLogged_alike (congruence : Logged.Congruence alike)
    (calls
      : ∀ target values, allowed target → alike Int64 (call target values) (other target values))
    (args : List Int64) (body : Body) (only : body.CallsOnly allowed)
    (reports : Logged.ReportsAlike alike ∨ body.Reportless)
    : alike Int64 (body.evalLogged call args) (body.eval other args) := by
  cases body with
  | const value => exact congruence.silent (Exec.keepsRecorder_pure value)
  | argCount => exact congruence.silent (Exec.keepsRecorder_pure _)
  | arg index =>
      refine congruence.silent fun process => ?_
      simp only [eval]
      cases args[index]? <;> rfl
  | operand index => exact congruence.silent (keepsRecorder_operandAt args index)
  | wrapping op left right =>
      simp only [eval, evalLogged]
      have first := evalLogged_alike congruence calls args left only.1 (reports.imp_right And.left)
      have second :=
        evalLogged_alike congruence calls args right only.2 (reports.imp_right And.right)
      refine congruence.bind first fun first => congruence.bind second fun second => ?_
      cases op.wrapping first second <;> exact congruence.silent fun _ => rfl
  | checked op left right =>
      simp only [eval, evalLogged]
      have first := evalLogged_alike congruence calls args left only.1 (reports.imp_right And.left)
      have second :=
        evalLogged_alike congruence calls args right only.2 (reports.imp_right And.right)
      refine congruence.bind first fun first => congruence.bind second fun second => ?_
      cases op.checked first second <;> exact congruence.silent fun _ => rfl
  | select condition yes no =>
      simp only [eval, evalLogged]
      have tested :=
        evalLogged_alike congruence calls args condition only.1 (reports.imp_right And.left)
      refine congruence.bind tested fun value => ?_
      split
      · exact evalLogged_alike congruence calls args yes only.2.1 (reports.imp_right (·.2.1))
      · exact evalLogged_alike congruence calls args no only.2.2 (reports.imp_right (·.2.2))
  | call name callArgs =>
      simp only [eval, evalLogged]
      have operands := evalAllLogged_alike congruence calls args callArgs only.2 reports
      exact congruence.bind operands fun values => calls _ values only.1
  | callAddress raw callArgs =>
      simp only [eval, evalLogged]
      have operands := evalAllLogged_alike congruence calls args callArgs only.2 reports
      refine congruence.bind operands fun values => ?_
      split
      · exact congruence.silent (Exec.keepsRecorder_stop _)
      · exact calls _ values only.1
  | sequence parts =>
      simp only [eval, evalLogged]
      have all := evalAllLogged_alike congruence calls args parts only reports
      exact congruence.bind all fun _ => congruence.silent (Exec.keepsRecorder_pure _)
  | recover body fallback =>
      simp only [eval, evalLogged]
      have tried := evalLogged_alike congruence calls args body only.1 (reports.imp_right And.left)
      refine congruence.bind (congruence.catchFault tried) fun outcome => ?_
      cases outcome with
      | ok value => exact congruence.silent (Exec.keepsRecorder_pure value)
      | error fault =>
          exact evalLogged_alike congruence calls args fallback only.2 (reports.imp_right And.right)
  | cleanup body last =>
      simp only [eval, evalLogged]
      have tried := evalLogged_alike congruence calls args body only.1 (reports.imp_right And.left)
      have ending :=
        evalLogged_alike congruence calls args last only.2 (reports.imp_right And.right)
      refine congruence.bind (congruence.catchFault tried) fun outcome => ?_
      refine congruence.bind ending fun _ => ?_
      cases outcome <;> exact congruence.silent fun _ => rfl
  | countSteps start step =>
      simp only [eval, evalLogged]
      have begun := evalLogged_alike congruence calls args start only.1 (reports.imp_right And.left)
      refine congruence.bind begun fun value => ?_
      exact countdownLogged_alike congruence
        (fun value =>
          evalLogged_alike congruence calls [value] step only.2 (reports.imp_right And.right))
        _ value 0
  | abort reason => exact congruence.silent (Exec.keepsRecorder_stop _)
  | panic payload => exact congruence.silent (Exec.keepsRecorder_stop _)
  | wait nanos =>
      exact congruence.silent ((Exec.keepsRecorder_wait nanos).bind fun _ _ => rfl)
  | write stream bytes =>
      exact congruence.silent ((Exec.keepsRecorder_write stream bytes).bind fun _ _ => rfl)
  | exit code => exact congruence.silent (Exec.keepsRecorder_stop _)
  | raise signal =>
      exact congruence.silent ((Exec.keepsRecorder_raise signal).bind fun _ _ => rfl)
  | recordEnter =>
      exact recordLogged_alike congruence (reports.resolve_right id) args .enter
  | recordLeave =>
      exact recordLogged_alike congruence (reports.resolve_right id) args .leave

/-- The same for bodies that run one after the other. -/
theorem evalAllLogged_alike (congruence : Logged.Congruence alike)
    (calls
      : ∀ target values, allowed target → alike Int64 (call target values) (other target values))
    (args : List Int64) (bodies : List Body) (only : AllCallOnly allowed bodies)
    (reports : Logged.ReportsAlike alike ∨ AllReportless bodies)
    : alike (List Int64) (evalAllLogged call args bodies) (evalAll other args bodies) := by
  cases bodies with
  | nil => exact congruence.silent (Exec.keepsRecorder_pure [])
  | cons body rest =>
      simp only [evalAll, evalAllLogged]
      have first := evalLogged_alike congruence calls args body only.1 (reports.imp_right And.left)
      have others :=
        evalAllLogged_alike congruence calls args rest only.2 (reports.imp_right And.right)
      refine congruence.bind first fun value => congruence.bind others fun values => ?_
      exact congruence.silent (Exec.keepsRecorder_pure (value :: values))

end

end Body

-----------------------------------------------------------------------------------------
-- Forgetting the log
-----------------------------------------------------------------------------------------

namespace Logged

/-- A computation with a log does what the one without does, and its log is what the recorder has
been told.
-/
structure Logs (logged : Logged α) (plain : Exec α) : Prop where
  forgets : logged.forget = plain
  faithful : logged.Faithful

theorem forget_bind (first : Logged α) (next : α → Logged β)
    : (first >>= next).forget = first.forget >>= fun answer => (next answer).forget := by
  funext process
  rw [Exec.bind_apply]
  unfold forget
  rcases ran : first process with ⟨⟨outcome, after⟩, events⟩
  cases outcome with
  | ok answer => rw [bind_ok ran]
  | error reason => rw [bind_error ran]

theorem Faithful.bind {first : Logged α} {next : α → Logged β} (told : first.Faithful)
    (others : ∀ answer, (next answer).Faithful)
    : Faithful (first >>= next) := by
  intro process
  have own := told process
  rcases ran : first process with ⟨⟨outcome, after⟩, events⟩
  rw [ran] at own
  cases outcome with
  | error reason =>
      rw [bind_error ran]
      exact own
  | ok answer =>
      have rest := others answer after
      rw [own, ← CallRecorder.run_append] at rest
      rw [bind_ok ran]
      exact rest

theorem forget_catchFault (computation : Logged α)
    : computation.catchFault.forget = Exec.catchFault computation.forget := by
  funext process
  exact (Exec.catchFault_apply computation.forget process).symm

/-- Writing a log is a requirement of this kind, and reports meet it. -/
theorem logs_congruence : Congruence fun _ logged plain => Logs logged plain where
  silent keeps := ⟨rfl, keeps⟩
  bind first others := by
    refine ⟨?_, first.faithful.bind fun answer => (others answer).faithful⟩
    rw [forget_bind, first.forgets]
    exact congrArg _ (funext fun answer => (others answer).forgets)
  catchFault parts :=
    ⟨(forget_catchFault _).trans (congrArg _ parts.forgets), fun process => parts.faithful process⟩

theorem report_logs : ReportsAlike fun _ logged plain => Logs logged plain :=
  fun _ => ⟨rfl, fun _ => rfl⟩

end Logged

/-- Code writes a log when the calls that it makes do. -/
theorem Body.evalLogged_logs {call : LoggedHandler} {other : CallHandler}
    (calls : ∀ target values, (call target values).Logs (other target values))
    (args : List Int64) (body : Body)
    : (body.evalLogged call args).Logs (body.eval other args) :=
  evalLogged_alike Logged.logs_congruence (fun target values _ => calls target values) args body
    body.callsOnly_true (.inl Logged.report_logs)

/-- Calls write a log, by induction on the depth to which they may nest. -/
theorem LoadedProgram.callLoggedWithin_logs (program : LoadedProgram) (depth : Nat)
    (target : CallTarget) (args : List Int64)
    : (program.callLoggedWithin depth target args).Logs (program.callWithin depth target args) := by
  induction depth generalizing target args with
  | zero => exact Logged.logs_congruence.silent (Exec.keepsRecorder_stop _)
  | succ depth ih =>
      unfold callLoggedWithin callWithin
      cases program.callee target with
      | ok body => exact Body.evalLogged_logs ih args body
      | error fault => exact Logged.logs_congruence.silent (Exec.keepsRecorder_stop _)

end MutationTesting
