import Lexeme.Log.Session
import Mathlib.Tactic.SplitIfs

/-!
# Limits of a build and limits at the start

A build checks the limits of its profile (`Limits.Buildable`), and the program checks the limits in
force once more when its log is started (`Limits.Startable`, `Log.Session.start_ok_iff`). A build
leaves two things to that second check: that the log is not asked to keep too many events, and that
messages may have any length at all. Limits that a build accepts are refused at the start for one of
these reasons, and for no other (`Limits.startFault?_of_build`).

Nothing checks that limits have room for what the program itself puts under them
(`Limits.Ample`). The limits in force are those of one of two profiles (`Limits.shipped`), and
whatever is said about them rests on what both profiles have in common: a build accepts them, the
program starts with them, and they are ample.
-/

set_option autoImplicit false
set_option relaxedAutoImplicit false

namespace Lexeme

/-! ### Starting the log -/

namespace Log.Session

theorem install_run (settings : LogSettings) (session : Session) :
    (install settings).run session =
      if session.settings.isSome then (.error .alreadyInstalled, session)
      else (.ok (), { session with settings := some settings }) := by
  change (if session.settings.isSome then _ else _ : Logged (Except StartError Unit)).run session =
    _
  cases session.settings <;> rfl

/-- The log is started unless there is a fault in the limits in force, which comes first, or
settings have been installed before. -/
theorem start_run (settings : LogSettings) (session : Session) :
    ((start settings).run session).1 =
      match Limits.current.startFault? with
      | some fault => .error (.limits fault)
      | none => if session.settings.isSome then .error .alreadyInstalled else .ok () := by
  rw [start]
  cases Limits.current.startFault? with
  | some fault => rfl
  | none =>
    simp only [StateT.run_bind, install_run]
    cases session.settings <;> rfl

theorem start_ok_iff (settings : LogSettings) (session : Session) :
    ((start settings).run session).1 = .ok () ↔
      Limits.current.startFault? = none ∧ session.settings = none := by
  rw [start_run]
  cases Limits.current.startFault? <;> cases session.settings <;> simp

end Log.Session

namespace Limits

/-! ### Checking limits -/

/-- Limits that a build of a profile accepts. -/
structure Buildable (profile : String) (limits : Limits) : Prop where
  maxFileSize_le : limits.maxFileSize ≤ greatestFileSize
  largeFileThreshold_le : limits.largeFileThreshold ≤ limits.maxFileSize
  maxDiagnostics_pos : 0 < limits.maxDiagnostics
  maxFragmentLength_pos : 0 < limits.maxFragmentLength
  le_logBufferSize : smallestLogBuffer ≤ limits.logBufferSize
  production : profile = "production" → limits.maxFileSize ≤ greatestProductionFileSize

/-- Limits that the program starts with. -/
structure Startable (limits : Limits) : Prop where
  le_logBufferSize : smallestLogBuffer ≤ limits.logBufferSize
  logBufferSize_le : limits.logBufferSize ≤ greatestLogBuffer
  maxMessageLength_pos : 0 < limits.maxMessageLength

variable {profile text : String} {limits : Limits}

theorem buildFault?_eq_none_iff : limits.buildFault? profile = none ↔ limits.Buildable profile := by
  constructor
  · intro hnone
    unfold buildFault? at hnone
    split_ifs at hnone with hsize hthreshold hdiagnostics hfragment hbuffer hproduction
    exact {
      maxFileSize_le := Nat.not_lt.1 hsize
      largeFileThreshold_le := Nat.not_lt.1 hthreshold
      maxDiagnostics_pos := Nat.pos_of_ne_zero hdiagnostics
      maxFragmentLength_pos := Nat.pos_of_ne_zero hfragment
      le_logBufferSize := Nat.not_lt.1 hbuffer
      production := fun hprofile ↦ Nat.not_lt.1 fun hsize ↦ hproduction ⟨hprofile, hsize⟩ }
  · intro hbuildable
    have hproduction :
        ¬ (profile = "production" ∧ greatestProductionFileSize < limits.maxFileSize) :=
      fun ⟨hprofile, hsize⟩ ↦ absurd (hbuildable.production hprofile) (Nat.not_le.2 hsize)
    rw [buildFault?, if_neg (Nat.not_lt.2 hbuildable.maxFileSize_le),
      if_neg (Nat.not_lt.2 hbuildable.largeFileThreshold_le),
      if_neg (Nat.ne_of_gt hbuildable.maxDiagnostics_pos),
      if_neg (Nat.ne_of_gt hbuildable.maxFragmentLength_pos),
      if_neg (Nat.not_lt.2 hbuildable.le_logBufferSize), if_neg hproduction]

/-- A log has room for an event at all. -/
theorem Buildable.logBufferSize_pos (hbuildable : limits.Buildable profile) :
    0 < limits.logBufferSize :=
  Nat.lt_of_lt_of_le (by decide) hbuildable.le_logBufferSize

/-- A build gives the constants of limits that it accepts, and nothing else. -/
theorem build_eq_ok_iff : limits.build profile = .ok text ↔
    limits.Buildable profile ∧ text = limits.constants profile := by
  rw [← buildFault?_eq_none_iff, build]
  cases limits.buildFault? profile with
  | none => simp [eq_comm]
  | some fault => simp

theorem startFault?_eq_none_iff : limits.startFault? = none ↔ limits.Startable := by
  constructor
  · intro hnone
    unfold startFault? at hnone
    split_ifs at hnone with hlarge hsmall hmessage
    exact ⟨Nat.not_lt.1 hsmall, Nat.not_lt.1 hlarge, Nat.pos_of_ne_zero hmessage⟩
  · intro hstartable
    rw [startFault?, if_neg (Nat.not_lt.2 hstartable.logBufferSize_le),
      if_neg (Nat.not_lt.2 hstartable.le_logBufferSize),
      if_neg (Nat.ne_of_gt hstartable.maxMessageLength_pos)]

/-! ### The limits in force -/

/-- Limits under which nothing is lost of what the program itself brings along: all operators that
there are can be counted, a message that is cut has room for the longest character, and each event of
a scan keeps its own context and the source at work. -/
structure Ample (limits : Limits) : Prop where
  le_maxTrackedOperators : 16 ≤ limits.maxTrackedOperators
  le_maxMessageLength : 4 ≤ limits.maxMessageLength
  le_maxContextEntries : 5 ≤ limits.maxContextEntries

/-- The limits of a production build. -/
def production : Limits where
  maxFileSize := 5242880
  largeFileThreshold := 524288
  maxDiagnostics := 200
  maxFragmentLength := 40
  maxTrackedOperators := 16
  logBufferSize := 1000
  maxMessageLength := 1024
  maxContextEntries := 16

/-- The profiles that there are, with their limits. -/
def shipped : List (String × Limits) :=
  [("development", development), ("production", production)]

section Shipped

variable {build : String × Limits} (hshipped : build ∈ shipped)
include hshipped

theorem buildable_of_mem_shipped : build.2.Buildable build.1 := by
  have hnone : ∀ build ∈ shipped, build.2.buildFault? build.1 = none := by decide
  exact buildFault?_eq_none_iff.1 (hnone build hshipped)

theorem startable_of_mem_shipped : build.2.Startable := by
  have hnone : ∀ build ∈ shipped, build.2.startFault? = none := by decide
  exact startFault?_eq_none_iff.1 (hnone build hshipped)

theorem ample_of_mem_shipped : build.2.Ample := by
  have hample : ∀ build ∈ shipped, 16 ≤ build.2.maxTrackedOperators ∧
      4 ≤ build.2.maxMessageLength ∧ 5 ≤ build.2.maxContextEntries := by decide
  obtain ⟨hoperators, hmessage, hcontext⟩ := hample build hshipped
  exact ⟨hoperators, hmessage, hcontext⟩

end Shipped

theorem current_mem_shipped : (Limits.profile, current) ∈ shipped := by
  decide

theorem buildable_current : current.Buildable Limits.profile :=
  buildable_of_mem_shipped current_mem_shipped

theorem startable_current : current.Startable :=
  startable_of_mem_shipped current_mem_shipped

theorem ample_current : current.Ample :=
  ample_of_mem_shipped current_mem_shipped

/-! ### Starting with the limits of a build -/

/-- The program starts with limits that a build accepts just if the log is not too large and
messages may have some length. Otherwise it says which of the two is wrong, the log before the
messages, and with these limits in force no log is started. -/
theorem startFault?_of_build (hbuild : limits.build profile = .ok text) :
    text = limits.constants profile ∧
    (limits.startFault? = none ↔
      limits.logBufferSize ≤ greatestLogBuffer ∧ 0 < limits.maxMessageLength) ∧
    (∀ fault, limits.startFault? = some fault ↔
      (greatestLogBuffer < limits.logBufferSize ∧ fault = .largeLogBuffer limits.logBufferSize) ∨
      (limits.logBufferSize ≤ greatestLogBuffer ∧ limits.maxMessageLength = 0 ∧
        fault = .noMessage)) ∧
    (limits = current → ∀ (settings : LogSettings) (session : Log.Session),
      session.settings = none →
        (((Log.Session.start settings).run session).1 = .ok () ↔
          limits.logBufferSize ≤ greatestLogBuffer ∧ 0 < limits.maxMessageLength)) := by
  obtain ⟨hbuildable, htext⟩ := build_eq_ok_iff.1 hbuild
  have hsmall : ¬ limits.logBufferSize < smallestLogBuffer :=
    Nat.not_lt.2 hbuildable.le_logBufferSize
  have hstarts : limits.startFault? = none ↔
      limits.logBufferSize ≤ greatestLogBuffer ∧ 0 < limits.maxMessageLength := by
    rw [startFault?_eq_none_iff]
    exact ⟨fun hstartable ↦ ⟨hstartable.logBufferSize_le, hstartable.maxMessageLength_pos⟩,
      fun ⟨hle, hpos⟩ ↦ ⟨hbuildable.le_logBufferSize, hle, hpos⟩⟩
  refine ⟨htext, hstarts, fun fault ↦ ?_, fun hcurrent settings session hfresh ↦ ?_⟩
  · rw [startFault?, if_neg hsmall]
    split_ifs with hlarge hmessage
    · simp [hlarge, Nat.not_le.2 hlarge, eq_comm]
    · simp [hlarge, Nat.not_lt.1 hlarge, hmessage, eq_comm]
    · simp [hlarge, hmessage]
  · rw [← hstarts, Log.Session.start_ok_iff, hcurrent]
    exact and_iff_left hfresh

/-- The largest log and the shortest message that the start allows, in a production build. -/
theorem startFault?_of_build_extreme :
    let limits : Limits := { development with logBufferSize := 100000, maxMessageLength := 1 }
    limits.build "production" = .ok (limits.constants "production") ∧
      limits.startFault? = none := by
  intro limits
  have hbuild : limits.build "production" = .ok (limits.constants "production") := rfl
  exact ⟨hbuild, (startFault?_of_build hbuild).2.1.2 (by decide)⟩

/-- One event too many, or messages without length, pass the build and are refused at the start. -/
theorem build_accepts_refused :
    let large : Limits := { development with logBufferSize := 100001 }
    let mute : Limits := { development with maxMessageLength := 0 }
    (large.build "development" = .ok (large.constants "development") ∧
      large.startFault? = some (.largeLogBuffer 100001)) ∧
    (mute.build "development" = .ok (mute.constants "development") ∧
      mute.startFault? = some .noMessage) :=
  ⟨⟨rfl, rfl⟩, ⟨rfl, rfl⟩⟩

end Limits

end Lexeme
