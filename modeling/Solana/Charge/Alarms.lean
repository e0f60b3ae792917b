import Mathlib.Data.List.Perm.Basic

/-!
# Alarms

`alarm.c` of charge-only mode keeps the pending alarms in a list in the order of their times.  An
alarm is set relative to the time of day, and all alarms with one callback are cancelled together.
`gettimeofday` may return anything: its readings are arguments here.  `malloc` succeeds.

For what the callbacks do to each other only the number of pending alarms of each callback
matters; `pendingAlarms_set` and `pendingAlarms_cancel` give it for the two operations.
-/

namespace Solana.Charge

/-- `struct timeval`. -/
structure Timeval where
  tvSec : Int
  tvUsec : Int
  deriving DecidableEq

/-- The comparison of two times in `alarm.c`. -/
def Timeval.before (t u : Timeval) : Bool :=
  decide (t.tvSec < u.tvSec) || decide (t.tvSec = u.tvSec) && decide (t.tvUsec < u.tvUsec)

/-- The time some milliseconds later. -/
def Timeval.addMs (t : Timeval) (ms : Int) : Timeval :=
  let usec := t.tvUsec + ms * 1000
  if usec ≥ 1000000 then ⟨t.tvSec + usec.tdiv 1000000, usec.tmod 1000000⟩ else ⟨t.tvSec, usec⟩

variable {κ : Type*}

/-- `struct alarm_node`.  No callback reads its cookie. -/
structure AlarmNode (κ : Type*) where
  alarmTime : Timeval
  f : κ
  deriving DecidableEq

/-- The alarm has expired. -/
def AlarmNode.expired (now : Timeval) (a : AlarmNode κ) : Bool := !now.before a.alarmTime

/-- `alarm_get_time_until_next`, whose result is an `int`. -/
def alarmGetTimeUntilNext (now : Timeval) : List (AlarmNode κ) → Int
  | [] => 0x7fffffff
  | a :: _ => ((a.alarmTime.tvSec - now.tvSec) * 1000 +
      (a.alarmTime.tvUsec - now.tvUsec).tdiv 1000).bmod 0x100000000

/-- Put an alarm in front of the first one that is later. -/
def alarmInsert (a : AlarmNode κ) : List (AlarmNode κ) → List (AlarmNode κ)
  | [] => [a]
  | c :: cs => if a.alarmTime.before c.alarmTime then a :: c :: cs else c :: alarmInsert a cs

/-- `alarm_set_relative`. -/
def alarmSetRelative (now : Timeval) (f : κ) (ms : Int) (alarms : List (AlarmNode κ)) :
    List (AlarmNode κ) :=
  alarmInsert ⟨now.addMs ms, f⟩ alarms

lemma alarmInsert_perm (a : AlarmNode κ) :
    ∀ alarms : List (AlarmNode κ), (alarmInsert a alarms).Perm (a :: alarms)
  | [] => .refl _
  | c :: cs => by
    unfold alarmInsert
    split_ifs
    · exact .refl _
    · exact ((alarmInsert_perm a cs).cons c).trans (.swap a c cs)

variable [DecidableEq κ]

/-- `alarm_cancel`: the alarms that are left and the number of those that were cancelled. -/
def alarmCancel (f : κ) : List (AlarmNode κ) → List (AlarmNode κ) × Nat
  | [] => ([], 0)
  | c :: cs =>
    let rest := alarmCancel f cs
    if c.f = f then (rest.1, rest.2 + 1) else (c :: rest.1, rest.2)

/-- The number of pending alarms with a callback. -/
def pendingAlarms (f : κ) (alarms : List (AlarmNode κ)) : Nat := alarms.countP (·.f = f)

lemma pendingAlarms_cons (f : κ) (a : AlarmNode κ) (alarms : List (AlarmNode κ)) :
    pendingAlarms f (a :: alarms) = pendingAlarms f alarms + if a.f = f then 1 else 0 := by
  simp [pendingAlarms, List.countP_cons]

lemma pendingAlarms_set (now : Timeval) (f g : κ) (ms : Int) (alarms : List (AlarmNode κ)) :
    pendingAlarms g (alarmSetRelative now f ms alarms) =
      pendingAlarms g alarms + if f = g then 1 else 0 := by
  have hperm := alarmInsert_perm ⟨now.addMs ms, f⟩ alarms
  rw [← pendingAlarms_cons g ⟨now.addMs ms, f⟩ alarms]
  exact hperm.countP_eq _

lemma pendingAlarms_cancel (f g : κ) : ∀ alarms : List (AlarmNode κ),
    pendingAlarms g (alarmCancel f alarms).1 = if f = g then 0 else pendingAlarms g alarms
  | [] => by simp [alarmCancel, pendingAlarms]
  | c :: cs => by
    have ih := pendingAlarms_cancel f g cs
    unfold alarmCancel
    by_cases hc : c.f = f
    · rw [if_pos hc, ih, pendingAlarms_cons, hc]
      split_ifs <;> rfl
    · rw [if_neg hc, pendingAlarms_cons, pendingAlarms_cons, ih]
      by_cases hfg : f = g
      · simp [hfg, hfg ▸ hc]
      · simp [hfg]

end Solana.Charge
