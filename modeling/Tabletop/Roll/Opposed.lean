/-
This file defines opposed rolls, which answer a roll that someone else made.
-/

import Tabletop.Roll.Standard

namespace Tabletop

structure OpposedRoll where
  inner : StandardRoll
  /-- The roll that is answered. -/
  prior : Snapshot
  output : String

namespace OpposedRoll

open Number

/-- A roll that is yet to be made. -/
def new (inner : StandardRoll) (prior : Snapshot) : OpposedRoll :=
  ⟨inner, prior, ""⟩

/-- The reply for how a roll stands against the prior one. -/
def verdictKey : Ordering → String
  | .gt => "roll.vs.win"
  | .lt => "roll.vs.lose"
  | .eq => "roll.vs.draw"

/-- The lines that compare a reply with the prior roll. -/
def comparison (scene : Scene) (prior reply : Snapshot) : StateM Faces String := do
  let level ← scene.renderLevel prior.level
  let bindings := ((((scene.bindings.insert "对方用户名" prior.username).insert
    "对方技能" prior.skill).insert "对方掷骰结果" prior.output).insert
      "对方目标值" (intText prior.target)).insert "对方判定" level
  let first ← scene.render "roll.vs.prior" bindings
  let second ← scene.render (verdictKey (reply.compare prior)) bindings
  return "\n" ++ first ++ "\n" ++ second

/-- Rolls and compares. A roll that cannot be compared stands alone. -/
def roll (scene : Scene) : Step OpposedRoll Unit := do
  Step.within (·.inner) (fun roll inner => { roll with inner := inner }) (StandardRoll.roll scene)
  let roll ← get
  match roll.inner.snapshot? with
  | none => set { roll with output := roll.inner.output }
  | some reply =>
    let compared ← comparison scene roll.prior reply
    set { roll with output := roll.inner.output ++ compared }

def apply (roll : OpposedRoll) (now : Instant) (context : Context) (board : Board) :
    Except Fault (Board × List String) :=
  roll.inner.apply now context board

end OpposedRoll

end Tabletop
