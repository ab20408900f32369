import SocketGate.Proofs.Channel.History

/-!
# `SocketGate.Proofs.Channel.Stepless`: a channel does not see the count of steps

A moment is a time together with the number of steps that its server has made before, and the
two timers of a channel keep the moment at which they were set. To the channel only the time has
a meaning. `Channel.stepless` forgets the numbers, and it commutes with everything that happens
to a channel. So a channel does and reports the same wherever it runs, however many steps are
made beside it.

* `Channel.read_stepless`, `Channel.write_stepless`: the steps of the reader and the writer.
* `Channel.run_stepless`, `Channel.told_stepless`: any actions, and what is reported.
-/

set_option autoImplicit false

namespace SocketGate

/-- The same time, as if no step had been made before. -/
def Moment.stepless (moment : Moment) : Moment := ⟨moment.time, 0⟩

theorem Moment.stepless_congr {now now' : Moment} (h : now'.time = now.time) :
    now'.stepless = now.stepless := by
  rw [stepless, stepless, h]

/-- The reader as if its timer had been set before any step was made. -/
def Reader.stepless : Reader → Reader
  | .draining reason since deadline => .draining reason since.stepless deadline
  | reader => reader

/-- The writer as if its timer had been set before any step was made. -/
def Writer.stepless : Writer → Writer
  | .awaitingShutdown since deadline => .awaitingShutdown since.stepless deadline
  | writer => writer

namespace Channel

/-- The channel as if its timers had been set before any step was made. -/
def stepless (channel : Channel) : Channel :=
  { channel with reader := channel.reader.stepless, writer := channel.writer.stepless }

/-- The same, for a channel after a step that may have reported something. -/
def Step.stepless (step : Step) : Step := (step.1.stepless, step.2)

/-- The same action at the same time. -/
def Action.stepless : Action → Action
  | .read now wakeup => .read now.stepless wakeup
  | .write now => .write now.stepless
  | action => action

variable (channel : Channel)

/-! ### The reader -/

/-- What a frame does to a channel has to do with no timer. -/
theorem receive_stepless (time : Nat) (frame : Frame) :
    channel.stepless.receive time frame = (channel.receive time frame).stepless := by
  unfold receive
  cases frame.opcode with
  | ping | pong => rfl
  | close =>
    show channel.stepless.receiveClose time frame.payload = _
    unfold receiveClose
    cases CloseReason.ofPayload? frame.payload <;> rfl
  | text | binary | continuation =>
    show channel.stepless.receiveData time frame = (channel.receiveData time frame).stepless
    unfold receiveData
    by_cases hopened : (channel.session.recordInbound time true).state = .opened
    · simp only [stepless, hopened, ne_eq, not_true_eq_false, if_false]
      split <;> rfl
    · simp only [stepless, hopened, ne_eq, not_false_eq_true, if_true]
      rfl

theorem readSource_stepless (time : Nat) :
    channel.stepless.readSource time = (channel.readSource time).map Step.stepless := by
  have hdecoder : channel.stepless.absorb.decoder = channel.absorb.decoder := rfl
  have hending : channel.stepless.absorb.transport.source.ending =
      channel.absorb.transport.source.ending := rfl
  unfold readSource
  dsimp only
  rw [hdecoder, hending]
  cases hnext : channel.absorb.decoder.next with
  | mk found decoder =>
    cases found with
    | error violation => rfl
    | ok found =>
      cases found with
      | some frame =>
        exact congrArg some ({ channel.absorb with decoder }.receive_stepless time frame)
      | none => cases channel.absorb.transport.source.ending <;> rfl

theorem endDrain_stepless (time : Nat) (reason : CloseReason) (deadline : Nat) :
    channel.stepless.endDrain time reason deadline =
      (channel.endDrain time reason deadline).map Step.stepless := by
  unfold endDrain
  have hwriter : channel.stepless.writer = channel.writer.stepless := rfl
  rw [hwriter]
  cases channel.writer with
  | ended result => rfl
  | _ =>
    -- A writer that goes on is given time until the deadline.
    by_cases hdue : deadline ≤ time
    · simp only [Writer.stepless, if_pos hdue]
      rfl
    · simp only [Writer.stepless, if_neg hdue]
      rfl

theorem read_stepless (now : Moment) (wakeup : Wakeup) :
    channel.stepless.read now.stepless wakeup = (channel.read now wakeup).map Step.stepless := by
  unfold read
  have hreader : channel.stepless.reader = channel.reader.stepless := rfl
  rw [hreader]
  cases hbefore : channel.reader with
  | reading =>
    cases wakeup with
    | cancelled =>
      show (if channel.session.cancelled then _ else none) = Option.map _ (if _ then _ else none)
      split <;> rfl
    | writerEnded =>
      show channel.stepless.readWriterEnd = channel.readWriterEnd.map Step.stepless
      unfold readWriterEnd
      have hwriter : channel.stepless.writer = channel.writer.stepless := rfl
      rw [hwriter]
      cases channel.writer with
      | ended result => cases result <;> rfl
      | _ => rfl
    | inbound => exact channel.readSource_stepless now.time
    | wrapUp => rfl
  | leaving reason =>
    cases wakeup <;> rfl
  | draining reason since deadline =>
    cases wakeup with
    | wrapUp => exact channel.endDrain_stepless now.time reason deadline
    | _ => rfl
  | created | finished => cases wakeup <;> rfl

/-! ### The writer -/

theorem takeItem_stepless :
    channel.stepless.takeItem = channel.takeItem.map fun taken => (taken.1, taken.2.stepless) := by
  unfold takeItem
  rw [Option.map_map]
  rfl

theorem writeNext_stepless : channel.stepless.writeNext = channel.writeNext.map stepless := by
  unfold writeNext
  rw [takeItem_stepless]
  cases channel.takeItem with
  | none => rfl
  | some taken =>
    obtain ⟨item, after⟩ := taken
    cases item with
    | shutdown => rfl
    | frame frame =>
      simp only [Option.map_some]
      cases frame.write <;> rfl

/-- The time of the peer begins when a close frame has been flushed, at whatever step. -/
theorem writeFrame_stepless (now : Moment) (unsent : Bytes) (isClose : Bool) :
    channel.stepless.writeFrame now.stepless unsent isClose =
      (channel.writeFrame now unsent isClose).map stepless := by
  unfold writeFrame
  have htransport : channel.stepless.transport = channel.transport := rfl
  rw [htransport]
  by_cases hempty : unsent.isEmpty
  · simp only [if_pos hempty]
    cases channel.transport.flush with
    | error fault => rfl
    | ok => cases isClose <;> rfl
  · simp only [if_neg hempty]
    by_cases hblocked : channel.transport.isBlocked
    · simp only [if_pos hblocked]
      rfl
    · simp only [if_neg hblocked]
      cases channel.transport.write unsent <;> rfl

theorem awaitShutdown_stepless (time deadline : Nat) :
    channel.stepless.awaitShutdown time deadline =
      (channel.awaitShutdown time deadline).map stepless := by
  unfold awaitShutdown
  rw [takeItem_stepless]
  cases channel.takeItem with
  | none =>
    by_cases hdue : deadline ≤ time
    · simp only [Option.map_none, if_pos hdue]
      rfl
    · simp only [Option.map_none, if_neg hdue]
  | some taken =>
    obtain ⟨item, after⟩ := taken
    cases item <;> rfl

theorem finishWriting_stepless :
    channel.stepless.finishWriting = channel.finishWriting.stepless := by
  unfold finishWriting
  have htransport : channel.stepless.transport = channel.transport := rfl
  rw [htransport]
  cases channel.transport.flush <;> rfl

theorem write_stepless (now : Moment) :
    channel.stepless.write now.stepless = (channel.write now).map stepless := by
  unfold write
  have hwriter : channel.stepless.writer = channel.writer.stepless := rfl
  rw [hwriter]
  cases channel.writer with
  | idle => exact channel.writeNext_stepless
  | sending unsent isClose => exact channel.writeFrame_stepless now unsent isClose
  | awaitingShutdown since deadline => exact channel.awaitShutdown_stepless now.time deadline
  | finishing => exact congrArg some channel.finishWriting_stepless
  | ended | aborted => rfl

/-! ### Actions and runs -/

theorem start_stepless : channel.stepless.start = channel.start.stepless := by
  unfold start
  have hreader : channel.stepless.reader = channel.reader.stepless := rfl
  rw [hreader]
  cases channel.reader <;> rfl

theorem outcome_stepless (action : Action) :
    channel.stepless.outcome action.stepless = (channel.outcome action).stepless := by
  cases action with
  | start => exact congrArg (·, none) channel.start_stepless
  | read now wakeup =>
    show (channel.stepless.read now.stepless wakeup).getD (channel.stepless, none) = _
    rw [read_stepless]
    show _ = ((channel.read now wakeup).getD (channel, none)).stepless
    cases channel.read now wakeup <;> rfl
  | write now =>
    show ((channel.stepless.write now.stepless).getD channel.stepless, none) = _
    rw [write_stepless]
    show _ = Step.stepless ((channel.write now).getD channel, none)
    cases channel.write now <;> rfl
  | _ => rfl

theorem after_stepless (action : Action) :
    channel.stepless.after action.stepless = (channel.after action).stepless :=
  congrArg (·.1) (channel.outcome_stepless action)

/-- What is reported does not depend on the steps that were made. -/
theorem told_stepless (action : Action) :
    channel.stepless.told action.stepless = channel.told action := by
  unfold told
  rw [outcome_stepless, after_stepless]
  rfl

/-- Nor does what the channel does. -/
theorem run_stepless (actions : List Action) :
    channel.stepless.run (actions.map Action.stepless) = (channel.run actions).stepless := by
  induction actions generalizing channel with
  | nil => rfl
  | cons action actions ih =>
    show (channel.stepless.after action.stepless).run _ = _
    rw [after_stepless]
    exact ih (channel.after action)

end Channel

end SocketGate
