import MutationTesting.Program.Evaluation

/-! Two runs of one body side by side. What is required of the two is a parameter; when it holds of
everything that bodies are made of, and of the calls that a body makes, then it holds of the whole
body. One such requirement is that both end in the same way in related processes.
-/

namespace MutationTesting

-----------------------------------------------------------------------------------------
-- Computations that are alike
-----------------------------------------------------------------------------------------

/-- What is required of two computations holds of all that bodies do to their process, and of a
computation whose parts have it.
-/
structure Exec.Congruence (alike : (α : Type) → Exec α → Exec α → Prop) : Prop where
  pure : ∀ {α : Type} (answer : α), alike α (Pure.pure answer) (Pure.pure answer)
  stop : ∀ {α : Type} (reason : Stop), alike α (Exec.stop reason) (Exec.stop reason)
  bind
    : ∀ {α β : Type} {left right : Exec α} {next other : α → Exec β},
        alike α left right
        → (∀ answer, alike β (next answer) (other answer))
        → alike β (left >>= next) (right >>= other)
  catchFault
    : ∀ {α : Type} {left right : Exec α},
        alike α left right → alike _ (Exec.catchFault left) (Exec.catchFault right)
  record
    : ∀ event,
        let change : Exec Unit :=
          Exec.change fun process => { process with recorder := process.recorder.step event }
        alike Unit change change
  write : ∀ stream bytes, alike Unit (Exec.write stream bytes) (Exec.write stream bytes)
  wait : ∀ nanos, alike Unit (Exec.wait nanos) (Exec.wait nanos)

theorem Exec.Congruence.raise {alike : (α : Type) → Exec α → Exec α → Prop}
    (congruence : Congruence alike) (signal : Signal)
    : alike Unit (Exec.raise signal) (Exec.raise signal) := by
  unfold Exec.raise
  cases signal.disposition with
  | terminate => exact congruence.stop _
  | suspend => exact congruence.stop _
  | ignore => exact congruence.pure ()

/-- From related processes both computations end in the same way, in related processes. -/
def Exec.Corresponds (related : ProcessState → ProcessState → Prop) (left right : Exec α)
    : Prop :=
  ∀ first second,
    related first second
    → (left first).1 = (right second).1 ∧ related (left first).2 (right second).2

/-- What bodies do to their process keeps processes related. -/
structure Exec.Respected (related : ProcessState → ProcessState → Prop) : Prop where
  record
    : ∀ event first second,
        related first second
        → related { first with recorder := first.recorder.step event }
            { second with recorder := second.recorder.step event }
  write
    : ∀ stream bytes,
        Corresponds related (Exec.write stream bytes) (Exec.write stream bytes)
  wait : ∀ nanos, Corresponds related (Exec.wait nanos) (Exec.wait nanos)

namespace Exec

variable {related : ProcessState → ProcessState → Prop}

/-- A computation followed by another one stops with the first when that one stops. -/
theorem bind_apply (computation : Exec α) (next : α → Exec β) (process : ProcessState)
    : (computation >>= next) process
      = match computation process with
        | (.ok answer, after) => next answer after
        | (.error reason, after) => (.error reason, after) := by
  simp only [bind, ExceptT.bind, ExceptT.mk, StateT.bind, ExceptT.bindCont]
  rcases computation process with ⟨outcome, after⟩
  cases outcome <;> rfl

theorem bind_ok {computation : Exec α} {answer : α} {process after : ProcessState}
    (ran : computation process = (.ok answer, after)) (next : α → Exec β)
    : (computation >>= next) process = next answer after := by
  rw [bind_apply, ran]

/-- What is made of an outcome when faults are caught. -/
def caught : Except Stop α → Except Stop (Except Fault α)
  | .ok answer => .ok (.ok answer)
  | .error (.fault fault) => .ok (.error fault)
  | .error reason => .error reason

/-- Catching faults changes the outcome only. -/
theorem catchFault_apply (computation : Exec α) (process : ProcessState)
    : Exec.catchFault computation process
      = (caught (computation process).1, (computation process).2) := by
  unfold Exec.catchFault caught
  rcases computation process with ⟨outcome, after⟩
  cases outcome with
  | ok answer => rfl
  | error reason => cases reason <;> rfl

/-- Waiting only moves the clock: to its deadline when the process is killed, and on otherwise.
-/
theorem wait_apply (nanos : Nat) (process : ProcessState)
    : Exec.wait nanos process
      = match process.deadline with
        | some deadline =>
            if process.elapsed + nanos > deadline then
              (.error .deadline, { process with elapsed := deadline })
            else
              (.ok (), { process with elapsed := process.elapsed + nanos })
        | none => (.ok (), { process with elapsed := process.elapsed + nanos }) := by
  have read : Exec.wait nanos process
      = (match process.deadline with
          | some deadline =>
              if process.elapsed + nanos > deadline then do
                set { process with elapsed := deadline }
                Exec.stop .deadline
              else
                set { process with elapsed := process.elapsed + nanos }
          | none => set { process with elapsed := process.elapsed + nanos } : Exec Unit)
          process :=
    rfl
  rw [read]
  cases process.deadline with
  | none => rfl
  | some deadline =>
      dsimp only
      split <;> rfl

theorem Corresponds.pure (answer : α)
    : Corresponds related (Pure.pure answer) (Pure.pure answer) :=
  fun _ _ start => ⟨rfl, start⟩

theorem Corresponds.stop (reason : Stop)
    : Corresponds related (Exec.stop reason : Exec α) (Exec.stop reason) :=
  fun _ _ start => ⟨rfl, start⟩

/-- Computations in sequence correspond when their parts do. -/
theorem Corresponds.bind {left right : Exec α} {next other : α → Exec β}
    (parts : Corresponds related left right)
    (rest : ∀ answer, Corresponds related (next answer) (other answer))
    : Corresponds related (left >>= next) (right >>= other) := by
  intro first second start
  obtain ⟨same, after⟩ := parts first second start
  rw [bind_apply, bind_apply]
  rcases ran : left first with ⟨outcome, process⟩
  rcases ranToo : right second with ⟨outcome', process'⟩
  rw [ran, ranToo] at same after
  subst same
  cases outcome with
  | ok answer => exact rest answer process process' after
  | error reason => exact ⟨rfl, after⟩

theorem Corresponds.catchFault {left right : Exec α} (parts : Corresponds related left right)
    : Corresponds related (Exec.catchFault left) (Exec.catchFault right) := by
  intro first second start
  obtain ⟨same, after⟩ := parts first second start
  rw [catchFault_apply, catchFault_apply, same]
  exact ⟨rfl, after⟩

/-- Whatever bodies do, they do it alike in one and the same process. -/
theorem Respected.eq : Respected Eq where
  record _ _ _ same := by rw [same]
  write _ _ _ _ same := by rw [same]; exact ⟨rfl, rfl⟩
  wait _ _ _ same := by rw [same]; exact ⟨rfl, rfl⟩

/-- Computations that correspond in one and the same process are the same. -/
theorem Corresponds.eq {left right : Exec α} (parts : Corresponds Eq left right)
    : left = right := by
  funext process
  obtain ⟨same, after⟩ := parts process process rfl
  exact Prod.ext same after

/-- Ending in the same way in related processes is a requirement of this kind. -/
theorem Respected.congruence (respected : Respected related)
    : Congruence fun _ left right => Corresponds related left right where
  pure := .pure
  stop := .stop
  bind := .bind
  catchFault := .catchFault
  record event _ _ start := ⟨rfl, respected.record event _ _ start⟩
  write := respected.write
  wait := respected.wait

/-- Unless the first computation is left unfinished, the second one does the same. -/
def ExtendedBy (left right : Exec α) : Prop :=
  ∀ process, (left process).1 = .error .unfinished ∨ left process = right process

/-- Faults are caught, but not that something is left unfinished. -/
theorem extendedBy_congruence : Congruence fun _ left right => ExtendedBy left right where
  pure _ _ := .inr rfl
  stop _ _ := .inr rfl
  bind {_ _ left right next other} parts rest process := by
    rw [bind_apply, bind_apply]
    rcases parts process with unfinished | same
    · left
      rcases ran : left process with ⟨outcome, after⟩
      rw [ran] at unfinished
      subst unfinished
      rfl
    · rw [← same]
      rcases left process with ⟨outcome, after⟩
      cases outcome with
      | ok answer => exact rest answer after
      | error reason => exact .inr rfl
  catchFault parts process := by
    rw [catchFault_apply, catchFault_apply]
    rcases parts process with unfinished | same
    · rw [unfinished]
      exact .inl rfl
    · rw [same]
      exact .inr rfl
  record _ _ := .inr rfl
  write _ _ _ := .inr rfl
  wait _ _ := .inr rfl

end Exec

-----------------------------------------------------------------------------------------
-- The calls of a body
-----------------------------------------------------------------------------------------

namespace Body

mutual

/-- Every call that a body may make goes to an allowed target. -/
def CallsOnly (allowed : CallTarget → Prop) : Body → Prop
  | .const _ | .argCount | .arg _ | .operand _ => True
  | .wrapping _ left right => CallsOnly allowed left ∧ CallsOnly allowed right
  | .checked _ left right => CallsOnly allowed left ∧ CallsOnly allowed right
  | .select condition yes no =>
      CallsOnly allowed condition ∧ CallsOnly allowed yes ∧ CallsOnly allowed no
  | .call name args => allowed (.symbol name) ∧ AllCallOnly allowed args
  | .callAddress raw args => allowed (.address raw) ∧ AllCallOnly allowed args
  | .sequence parts => AllCallOnly allowed parts
  | .recover body fallback => CallsOnly allowed body ∧ CallsOnly allowed fallback
  | .cleanup body last => CallsOnly allowed body ∧ CallsOnly allowed last
  | .countSteps start step => CallsOnly allowed start ∧ CallsOnly allowed step
  | .abort _ | .panic _ | .wait _ | .write _ _ | .exit _ | .raise _ => True
  | .recordEnter | .recordLeave => True

/-- Every call that one of some bodies may make goes to an allowed target. -/
def AllCallOnly (allowed : CallTarget → Prop) : List Body → Prop
  | [] => True
  | body :: rest => CallsOnly allowed body ∧ AllCallOnly allowed rest

end

mutual

/-- Every body keeps to targets that are all allowed, by induction on the body. -/
theorem callsOnly_true (body : Body) : CallsOnly (fun _ => True) body := by
  cases body with
  | const | argCount | arg | operand | abort | panic | wait | write | exit | raise
  | recordEnter | recordLeave => trivial
  | wrapping op left right => exact ⟨callsOnly_true left, callsOnly_true right⟩
  | checked op left right => exact ⟨callsOnly_true left, callsOnly_true right⟩
  | select condition yes no =>
      exact ⟨callsOnly_true condition, callsOnly_true yes, callsOnly_true no⟩
  | call name args => exact ⟨trivial, allCallOnly_true args⟩
  | callAddress raw args => exact ⟨trivial, allCallOnly_true args⟩
  | sequence parts => exact allCallOnly_true parts
  | recover body fallback => exact ⟨callsOnly_true body, callsOnly_true fallback⟩
  | cleanup body last => exact ⟨callsOnly_true body, callsOnly_true last⟩
  | countSteps start step => exact ⟨callsOnly_true start, callsOnly_true step⟩

/-- The same for lists of bodies. -/
theorem allCallOnly_true (bodies : List Body) : AllCallOnly (fun _ => True) bodies := by
  cases bodies with
  | nil => trivial
  | cons body rest => exact ⟨callsOnly_true body, allCallOnly_true rest⟩

end

-----------------------------------------------------------------------------------------
-- Running a body on both sides
-----------------------------------------------------------------------------------------

variable {alike : (α : Type) → Exec α → Exec α → Prop} {allowed : CallTarget → Prop}
  {call other : CallHandler}

theorem operandAt_congruent (congruence : Exec.Congruence alike) (args : List Int64) (index : Nat)
    : alike Int64 (operandAt args index) (operandAt args index) := by
  unfold operandAt
  cases args[index]? with
  | some value => exact congruence.pure value
  | none => exact congruence.stop _

theorem record_congruent (congruence : Exec.Congruence alike) (args : List Int64)
    (event : Nat → CallEvent)
    : alike Int64 (record args event) (record args event) :=
  congruence.bind (operandAt_congruent congruence args 0) fun value =>
    congruence.bind (congruence.record (event (functionNumber value))) fun _ => congruence.pure 0

/-- Counting down takes the same steps on both sides, by induction on the room that is left for
the count.
-/
theorem countdown_congruent (congruence : Exec.Congruence alike) {step next : Int64 → Exec Int64}
    (steps : ∀ value, alike Int64 (step value) (next value)) (room : Nat) (value count : Int64)
    : alike Int64 (countdown step room value count) (countdown next room value count) := by
  induction room generalizing value count with
  | zero =>
      unfold countdown
      split
      · exact congruence.pure count
      · exact congruence.bind (steps value) fun _ => congruence.stop _
  | succ room ih =>
      unfold countdown
      split
      · exact congruence.pure count
      · exact congruence.bind (steps value) fun value => ih value (count + 1)

mutual

/-- A body runs alike on both sides when the calls that it makes do.
Witness: induction on the body; a call is the only place where the sides may differ.
-/
theorem eval_congruent (congruence : Exec.Congruence alike)
    (calls
      : ∀ target values, allowed target → alike Int64 (call target values) (other target values))
    (args : List Int64) (body : Body) (only : body.CallsOnly allowed)
    : alike Int64 (body.eval call args) (body.eval other args) := by
  cases body with
  | const value => exact congruence.pure value
  | argCount => exact congruence.pure _
  | arg index =>
      simp only [eval]
      cases args[index]? with
      | some value => exact congruence.pure value
      | none => exact congruence.stop _
  | operand index => exact operandAt_congruent congruence args index
  | wrapping op left right =>
      simp only [eval]
      refine congruence.bind (eval_congruent congruence calls args left only.1) fun first => ?_
      refine congruence.bind (eval_congruent congruence calls args right only.2) fun second => ?_
      cases op.wrapping first second with
      | ok value => exact congruence.pure value
      | error fault => exact congruence.stop _
  | checked op left right =>
      simp only [eval]
      refine congruence.bind (eval_congruent congruence calls args left only.1) fun first => ?_
      refine congruence.bind (eval_congruent congruence calls args right only.2) fun second => ?_
      cases op.checked first second with
      | ok value => exact congruence.pure value
      | error payload => exact congruence.stop _
  | select condition yes no =>
      simp only [eval]
      refine congruence.bind (eval_congruent congruence calls args condition only.1) fun value => ?_
      split
      · exact eval_congruent congruence calls args yes only.2.1
      · exact eval_congruent congruence calls args no only.2.2
  | call name callArgs =>
      simp only [eval]
      have operands := evalAll_congruent congruence calls args callArgs only.2
      refine congruence.bind operands fun values => ?_
      exact calls _ values only.1
  | callAddress raw callArgs =>
      simp only [eval]
      have operands := evalAll_congruent congruence calls args callArgs only.2
      refine congruence.bind operands fun values => ?_
      split
      · exact congruence.stop _
      · exact calls _ values only.1
  | sequence parts =>
      simp only [eval]
      refine congruence.bind (evalAll_congruent congruence calls args parts only) fun _ => ?_
      exact congruence.pure _
  | recover body fallback =>
      simp only [eval]
      have caught := congruence.catchFault (eval_congruent congruence calls args body only.1)
      refine congruence.bind caught fun outcome => ?_
      cases outcome with
      | ok value => exact congruence.pure value
      | error fault => exact eval_congruent congruence calls args fallback only.2
  | cleanup body last =>
      simp only [eval]
      have caught := congruence.catchFault (eval_congruent congruence calls args body only.1)
      refine congruence.bind caught fun outcome => ?_
      refine congruence.bind (eval_congruent congruence calls args last only.2) fun _ => ?_
      cases outcome with
      | ok value => exact congruence.pure value
      | error fault => exact congruence.stop _
  | countSteps start step =>
      simp only [eval]
      refine congruence.bind (eval_congruent congruence calls args start only.1) fun value => ?_
      exact countdown_congruent congruence
        (fun value => eval_congruent congruence calls [value] step only.2) _ value 0
  | abort reason => exact congruence.stop _
  | panic payload => exact congruence.stop _
  | wait nanos => exact congruence.bind (congruence.wait nanos) fun _ => congruence.pure 0
  | write stream bytes =>
      exact congruence.bind (congruence.write stream bytes) fun _ => congruence.pure 0
  | exit code => exact congruence.stop _
  | raise signal => exact congruence.bind (congruence.raise signal) fun _ => congruence.pure 0
  | recordEnter => exact record_congruent congruence args .enter
  | recordLeave => exact record_congruent congruence args .leave

/-- Bodies that run one after the other run alike on both sides. -/
theorem evalAll_congruent (congruence : Exec.Congruence alike)
    (calls
      : ∀ target values, allowed target → alike Int64 (call target values) (other target values))
    (args : List Int64) (bodies : List Body) (only : AllCallOnly allowed bodies)
    : alike (List Int64) (evalAll call args bodies) (evalAll other args bodies) := by
  cases bodies with
  | nil => exact congruence.pure []
  | cons body rest =>
      simp only [evalAll]
      refine congruence.bind (eval_congruent congruence calls args body only.1) fun value => ?_
      refine congruence.bind (evalAll_congruent congruence calls args rest only.2) fun values => ?_
      exact congruence.pure (value :: values)

end

end Body

end MutationTesting
