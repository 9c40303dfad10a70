import UsbxNxdk.TxApi

/-! Event flag groups: one bit mask behind a critical section, polled by the
getters. Each critical section is atomic for the other threads. -/

namespace UsbxNxdk.EventFlags

structure TxEventFlagsGroup where
  txEventFlagsGroupName : Option String
  txEventFlagsGroupCurrent : ULONG
  txEventFlagsGroupId : ULONG
  deriving DecidableEq, Repr

def txEventFlagsId : ULONG := 0x4456444E
def txEventFlagsClearMask : UINT := 0x1

def txEventFlagsCreate (name : Option String) : UINT × TxEventFlagsGroup :=
  (txSuccess,
    { txEventFlagsGroupName := name
      txEventFlagsGroupCurrent := 0
      txEventFlagsGroupId := txEventFlagsId })

def txEventFlagsDelete (group : TxEventFlagsGroup) : UINT × TxEventFlagsGroup :=
  (txSuccess, { group with txEventFlagsGroupId := txClearId })

def txEventFlagsSet (group : TxEventFlagsGroup) (flagsToSet : ULONG) (setOption : UINT) :
    UINT × TxEventFlagsGroup :=
  if setOption = txOr then
    (txSuccess,
      { group with txEventFlagsGroupCurrent := group.txEventFlagsGroupCurrent ||| flagsToSet })
  else if setOption = txAnd then
    (txSuccess,
      { group with txEventFlagsGroupCurrent := group.txEventFlagsGroupCurrent &&& flagsToSet })
  else (txSuccess, group)

structure LoopPass where
  actualFlags : ULONG
  flagsSatisfied : ULONG
  group : TxEventFlagsGroup
  deriving DecidableEq, Repr

/-- The critical section of one loop pass of `_tx_event_flags_get`. -/
def loopPass (group : TxEventFlagsGroup) (requestedFlags : ULONG) (getOption : UINT) :
    LoopPass :=
  let currentFlags := group.txEventFlagsGroupCurrent
  let matched := currentFlags &&& requestedFlags
  let flagsSatisfied :=
    if getOption &&& txAnd = txAnd ∧ matched ≠ requestedFlags then 0 else matched
  { actualFlags := currentFlags
    flagsSatisfied := flagsSatisfied
    group :=
      if flagsSatisfied ≠ 0 then
        if getOption &&& txEventFlagsClearMask ≠ 0 then
          { group with txEventFlagsGroupCurrent := currentFlags &&& ~~~requestedFlags }
        else group
      else group }

inductive Section where
  | set (flagsToSet : ULONG) (setOption : UINT)
  | pass (requestedFlags : ULONG) (getOption : UINT)
  deriving DecidableEq, Repr

def Section.run (group : TxEventFlagsGroup) : Section → TxEventFlagsGroup
  | .set flagsToSet setOption => (txEventFlagsSet group flagsToSet setOption).2
  | .pass requestedFlags getOption => (loopPass group requestedFlags getOption).group

def runSections (group : TxEventFlagsGroup) (sections : List Section) : TxEventFlagsGroup :=
  sections.foldl Section.run group

structure PassRecord where
  before : ULONG
  after : ULONG
  deriving DecidableEq, Repr

/-- A returned `_tx_event_flags_get`; `passes` is a history variable. -/
structure GetOutcome where
  status : UINT
  actualFlags : ULONG
  group : TxEventFlagsGroup
  passes : List PassRecord
  deriving DecidableEq, Repr

/-- The status comes from a clock reading of its own, taken after the loop. -/
def exitStatus (tickCount timeout : ULONG) : UINT :=
  if tickCount ≥ timeout then txNoEvents else txSuccess

def leaveLoop (timeout : ULONG) (pass : LoopPass) (record : PassRecord) :
    List ULONG → Option GetOutcome
  | [] => none
  | tickCount :: _ =>
      some
        { status := exitStatus tickCount timeout
          actualFlags := pass.actualFlags
          group := pass.group
          passes := [record] }

/-- The polling loop. `others` holds, pass by pass, the critical sections that
other threads run before it, and `readings` what successive calls of
`GetTickCount` return; the loop is still polling when either runs out. -/
def getLoop (requestedFlags : ULONG) (getOption : UINT) (timeout : ULONG) :
    List (List Section) → List ULONG → TxEventFlagsGroup → Option GetOutcome
  | [], _, _ => none
  | sections :: others, readings, group =>
      let entered := runSections group sections
      let pass := loopPass entered requestedFlags getOption
      let record : PassRecord :=
        ⟨entered.txEventFlagsGroupCurrent, pass.group.txEventFlagsGroupCurrent⟩
      if pass.flagsSatisfied ≠ 0 then
        -- Left without a look at the clock, which decides the status all the same.
        leaveLoop timeout pass record readings
      else
        match readings with
        | [] => none
        | tickCount :: readings =>
            if tickCount < timeout then
              (getLoop requestedFlags getOption timeout others readings pass.group).map
                fun outcome => { outcome with passes := record :: outcome.passes }
            else leaveLoop timeout pass record readings

/-- The two assignments to `timeout`, the second of which reads the clock.
`stackTimeout` is what the uninitialised local holds on entry. -/
def initialTimeout (waitOption stackTimeout : ULONG) (readings : List ULONG) :
    Option (ULONG × List ULONG) :=
  let timeout := if waitOption = txWaitForever then infinite else stackTimeout
  if waitOption = txNoWait then
    match readings with
    | [] => none
    | tickCount :: readings => some (tickCount, readings)
  else some (timeout, readings)

def txEventFlagsGet (group : TxEventFlagsGroup) (requestedFlags : ULONG) (getOption : UINT)
    (waitOption stackTimeout : ULONG) (others : List (List Section)) (readings : List ULONG) :
    Option GetOutcome :=
  match initialTimeout waitOption stackTimeout readings with
  | none => none
  | some (timeout, readings) =>
      getLoop requestedFlags getOption timeout others readings group

/-- When a group value satisfies a request. The options that carry the bit of
`TX_AND` ask for all requested flags, the others for any of them; a request
for no flags is never satisfied. -/
def Satisfied (getOption : UINT) (requestedFlags current : ULONG) : Prop :=
  if getOption &&& txAnd = txAnd then
    requestedFlags ≠ 0 ∧ current &&& requestedFlags = requestedFlags
  else current &&& requestedFlags ≠ 0

instance (getOption : UINT) (requestedFlags current : ULONG) :
    Decidable (Satisfied getOption requestedFlags current) := by
  unfold Satisfied
  infer_instance

def Clears (getOption : UINT) : Prop := getOption &&& txEventFlagsClearMask ≠ 0

instance (getOption : UINT) : Decidable (Clears getOption) :=
  inferInstanceAs (Decidable (_ ≠ _))

theorem loopPass_satisfied (group : TxEventFlagsGroup) (requestedFlags : ULONG)
    (getOption : UINT) :
    (loopPass group requestedFlags getOption).flagsSatisfied ≠ 0 ↔
      Satisfied getOption requestedFlags group.txEventFlagsGroupCurrent := by
  unfold loopPass Satisfied
  by_cases all : getOption &&& txAnd = txAnd
  · by_cases whole : group.txEventFlagsGroupCurrent &&& requestedFlags = requestedFlags
    · simp [all, whole]
    · simp [all, whole]
  · simp [all]

theorem loopPass_group (group : TxEventFlagsGroup) (requestedFlags : ULONG) (getOption : UINT) :
    (loopPass group requestedFlags getOption).group =
      if Satisfied getOption requestedFlags group.txEventFlagsGroupCurrent ∧ Clears getOption then
        { group with
          txEventFlagsGroupCurrent := group.txEventFlagsGroupCurrent &&& ~~~requestedFlags }
      else group := by
  have decided := loopPass_satisfied group requestedFlags getOption
  simp only [← decided]
  rw [ite_and]
  rfl

theorem loopPass_current (group : TxEventFlagsGroup) (requestedFlags : ULONG) (getOption : UINT) :
    (loopPass group requestedFlags getOption).group.txEventFlagsGroupCurrent =
      if Satisfied getOption requestedFlags group.txEventFlagsGroupCurrent ∧ Clears getOption then
        group.txEventFlagsGroupCurrent &&& ~~~requestedFlags
      else group.txEventFlagsGroupCurrent := by
  rw [loopPass_group]
  split <;> rfl

theorem loopPass_keeps (group : TxEventFlagsGroup) (requestedFlags : ULONG) (getOption : UINT)
    (idle : ¬ Satisfied getOption requestedFlags group.txEventFlagsGroupCurrent ∨
      ¬ Clears getOption) :
    (loopPass group requestedFlags getOption).group = group := by
  rw [loopPass_group, if_neg (not_and_or.mpr idle)]

theorem txEventFlagsSet_current (group : TxEventFlagsGroup) (flagsToSet : ULONG)
    (setOption : UINT) :
    (txEventFlagsSet group flagsToSet setOption).2.txEventFlagsGroupCurrent =
      if setOption = txOr then group.txEventFlagsGroupCurrent ||| flagsToSet
      else if setOption = txAnd then group.txEventFlagsGroupCurrent &&& flagsToSet
      else group.txEventFlagsGroupCurrent := by
  unfold txEventFlagsSet
  split
  · rfl
  · split <;> rfl

end UsbxNxdk.EventFlags
