import SourceSimilarity.Console.Box
import SourceSimilarity.Decimal.Number
import SourceSimilarity.Scan.Progress

namespace SourceSimilarity

open Decimal (Number)

inductive DrawingError where
  | tooLarge
  | notANumber
deriving DecidableEq, Repr

/-- A whole number as a floating-point number, if one is near enough. -/
def floatOf (n : Int) : Except DrawingError Float :=
  let x := Decimal.floatOfInt n
  if x.isInf then .error .tooLarge else .ok x

def longDuration (seconds : Int) : String :=
  if seconds < 3600 then s!"{seconds / 60}m{seconds % 60}s"
  else s!"{seconds / 3600}h{seconds % 3600 / 60}m"

/-- A duration in seconds as it is shown: below a minute with one place, else in whole units. -/
def durationText : Number → Except DrawingError String
  | .whole seconds =>
    if seconds < 60 then
      (floatOf seconds).map fun x => Decimal.fixedPlaces 1 x ++ "s"
    else .ok (longDuration seconds)
  | .float x =>
    if x < 60 then .ok (Decimal.fixedPlaces 1 x ++ "s")
    else
      match Decimal.truncate? x with
      | some seconds => .ok (longDuration seconds)
      | none => .error (if x.isNaN then .notANumber else .tooLarge)

def barWidth : Int := 40

def filledPart (current total width : Int) : Except DrawingError Int :=
  let share := Decimal.nearestFloat (current * width).natAbs total.natAbs
  match Decimal.truncate? share with
  | none => .error .tooLarge
  | some part => .ok (if current * width < 0 ↔ total < 0 then part else -part)

def bar (current total width : Int) : Except DrawingError String :=
  if total = 0 then .ok (repeated '░' width.toNat)
  else do
    let filled ← filledPart current total width
    pure (repeated '█' filled.toNat ++ repeated '░' (width - filled).toNat)

def lineStart : String := "\r\x1b[K"

/-- The line of a phase in progress; nothing for a phase without units. -/
def progressLine (palette : Palette) (phase : String) (current total : Int)
    (elapsed left : Number) : Except DrawingError String := do
  if total ≤ 0 then return ""
  let drawn ← bar current total barWidth
  let passed ← durationText elapsed
  let positive := match left with
    | .whole n => decide (0 < n)
    | .float x => decide (0 < x)
  let remaining ← if positive then
      pure s!" | ETA: {palette.yellow}{← durationText left}{palette.reset}"
    else pure ""
  pure (s!"{lineStart}{palette.cyan}[{drawn}]{palette.reset} " ++
    s!"{palette.bold}{current * 100 / total}%{palette.reset} " ++
    s!"({current}/{total}) {palette.dim}{phase}{palette.reset} | Elapsed: {passed}{remaining}")

def finalLine (palette : Palette) (phase : String) (total : Int) (elapsed : Number) :
    Except DrawingError String := do
  let drawn ← bar total total barWidth
  let passed ← durationText elapsed
  pure (s!"{lineStart}{palette.green}[{drawn}]{palette.reset} " ++
    s!"{palette.bold}100%{palette.reset} ({total}/{total}) {phase} | Total: {passed}\n")

structure ProgressView where
  interval : Float
  phase : Option String := none
  started : Float := 0
  drawn : Float := 0

namespace ProgressView

def initial : ProgressView := { interval := 0.1 }

def enter (view : ProgressView) (now : Float) (phase : Option String) : ProgressView :=
  if phase = view.phase then view else { view with phase, started := now, drawn := 0 }

def timeLeft (elapsed : Float) (completed total : Int) : Except DrawingError Float :=
  if 0 < completed then do
    let each := elapsed / (← floatOf completed)
    pure (each * (← floatOf (total - completed)))
  else .ok 0

def draw (view : ProgressView) (palette : Palette) (now : Float) (report : ProgressReport) :
    ProgressView × Except DrawingError String :=
  let view := view.enter now report.phase
  let phase := report.phase.getD "None"
  let elapsed := now - view.started
  if report.total ≤ report.completed then
    (view, finalLine palette phase report.total (.float elapsed))
  else if now - view.drawn < view.interval then (view, .ok "")
  else
    ({ view with drawn := now }, do
      let left ← timeLeft elapsed report.completed report.total
      progressLine palette phase report.completed report.total (.float elapsed) (.float left))

end ProgressView

end SourceSimilarity
