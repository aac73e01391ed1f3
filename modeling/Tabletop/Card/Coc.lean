/-
This file defines the cards of Call of Cthulhu.
-/

import Std.Data.ExtTreeSet
import Tabletop.Card.Core

namespace Tabletop

open Number

/-- The parts of a card that hold numbers. -/
inductive CocPart where
  | props
  | basic
  | skills
deriving DecidableEq, Repr

def CocPart.kind : CocPart → EntryKind
  | .props => .props
  | .basic => .basic
  | .skills => .skills

structure CocCard where
  core : CardCore
  props : Values
  basic : Values
  skills : Values
  /-- The skills that wait for a growth check. -/
  growthMarks : Std.ExtTreeSet String
deriving DecidableEq

namespace CocCard

/-- The characteristics. -/
def propNames : List String :=
  ["力量", "体质", "体型", "敏捷", "外貌", "智力", "意志", "教育"]

def hitPoints : String := "生命值"

def magicPoints : String := "魔法值"

def sanity : String := "理智"

def luck : String := "幸运"

def mythos : String := "克苏鲁神话"

def damageBonus : String := "伤害加值"

/-- The resources. -/
def basicNames : List String :=
  [hitPoints, magicPoints, sanity, luck]

def synonyms : Synonyms :=
  [("str", "力量"), ("con", "体质"), ("siz", "体型"), ("dex", "敏捷"), ("app", "外貌"), ("int", "智力"),
   ("灵感", "智力"), ("pow", "意志"), ("edu", "教育"), ("知识", "教育"), ("luck", "幸运"), ("运气", "幸运"),
   ("hp", "生命值"), ("体力", "生命值"), ("mp", "魔法值"), ("san", "理智"), ("san值", "理智"),
   ("理智值", "理智"), ("sanity", "理智"), ("cm", "克苏鲁神话"), ("克苏鲁", "克苏鲁神话"), ("侦察", "侦查"),
   ("图书馆", "图书馆使用"), ("计算机", "计算机使用"), ("电脑", "计算机使用"), ("信用", "信用评级"), ("信誉", "信用评级"),
   ("驾驶", "汽车驾驶"), ("开车", "汽车驾驶"), ("听", "聆听"), ("db", "伤害加值"), ("build", "体格"),
   ("mov", "移动力"), ("hpmax", "最大生命值"), ("mpmax", "最大魔法值")]

/-- What untrained skills are worth. -/
def skillBases : List (String × Int) :=
  [("会计", 5), ("人类学", 1), ("估价", 5), ("考古学", 1), ("魅惑", 15), ("攀爬", 20), ("计算机使用", 5),
   ("信用评级", 0), ("克苏鲁神话", 0), ("乔装", 5), ("汽车驾驶", 20), ("电气维修", 10), ("电子学", 1), ("话术", 5),
   ("斗殴", 25), ("手枪", 20), ("急救", 30), ("历史", 5), ("恐吓", 15), ("跳跃", 20), ("法律", 5),
   ("图书馆使用", 20), ("聆听", 20), ("锁匠", 1), ("机械维修", 10), ("医学", 1), ("博物学", 10), ("领航", 10),
   ("神秘学", 5), ("操作重型机械", 1), ("说服", 10), ("精神分析", 1), ("心理学", 10), ("骑术", 5), ("妙手", 10),
   ("侦查", 25), ("潜行", 20), ("游泳", 20), ("投掷", 20), ("追踪", 10)]

def new (name : String) (now : Instant) : CocCard :=
  ⟨.new name now, ∅, ∅, ∅, ∅⟩

def part (card : CocCard) : CocPart → Values
  | .props => card.props
  | .basic => card.basic
  | .skills => card.skills

def setPart (card : CocCard) (part : CocPart) (values : Values) : CocCard :=
  match part with
  | .props => { card with props := values }
  | .basic => { card with basic := values }
  | .skills => { card with skills := values }

def maxHitPoints? (card : CocCard) : Option Int := do
  return (wrap ((← card.props["体质"]?) + (← card.props["体型"]?))).tdiv 10

def maxMagicPoints? (card : CocCard) : Option Int :=
  card.props["意志"]?.map (·.tdiv 5)

def maxSanity (card : CocCard) : Int :=
  wrap (99 - card.skills.getD mythos 0)

/-- Strength and size together, if one of them is known. -/
def bulk? (card : CocCard) : Option Int :=
  match card.props["力量"]?, card.props["体型"]? with
  | none, none => none
  | strength, size => some (wrap (strength.getD 0 + size.getD 0))

/-- The build for strength and size together. -/
def buildOf (bulk : Int) : Int :=
  if bulk ≤ 64 then -2
  else if bulk ≤ 84 then -1
  else if bulk ≤ 124 then 0
  else if bulk ≤ 164 then 1
  else if bulk ≤ 204 then 2
  else 2 + ((bulk - 205).tdiv 80 + 1)

/-- The damage bonus for strength and size together. -/
def damageBonusOf (bulk : Int) : String :=
  if bulk ≤ 64 then "-2"
  else if bulk ≤ 84 then "-1"
  else if bulk ≤ 124 then "0"
  else if bulk ≤ 164 then "1d4"
  else if bulk ≤ 204 then "1d6"
  else intText ((bulk - 205).tdiv 80 + 2) ++ "d6"

def movement? (card : CocCard) : Option Int := do
  let strength ← card.props["力量"]?
  let dexterity ← card.props["敏捷"]?
  let size ← card.props["体型"]?
  return if dexterity < size ∧ strength < size then 7
    else if size < dexterity ∧ size < strength then 9
    else 8

/-- The number that follows from the others on the card. -/
def computed? (card : CocCard) (key : String) : Option Int :=
  match key with
  | "体格" => card.bulk?.map buildOf
  | "最大生命值" => card.maxHitPoints?
  | "最大魔法值" => card.maxMagicPoints?
  | "移动力" => card.movement?
  | "闪避" => card.props["敏捷"]?.map (·.tdiv 2)
  | "母语" => card.props["教育"]?
  | _ => (skillBases.find? (·.1 == key)).map (·.2)

/-- The entry of a name in one part of the card. -/
def stored? (card : CocCard) (input key : String) (part : CocPart) : Option Entry :=
  ((card.part part).lookup? key).map fun (key, value) => .stored input key value part.kind

/-- The entry of a name without a difficulty. -/
def plainEntryOf? (card : CocCard) (input name : String) : Option Entry :=
  let key := synonyms.keyOf name
  (card.stored? input key .props).or <|
    (card.stored? input key .skills).or <|
      (card.stored? input key .basic).or <|
        (card.computed? key).map (.computed input key ·)

/-- The entry of a name, which may begin with a difficulty. -/
def entryOf? (card : CocCard) (input : String) : Option Entry :=
  match card.plainEntryOf? input input with
  | some entry => some (entry.withDifficulty .normal)
  | none =>
    match Difficulty.split input.toList with
    | (.normal, _) => none
    | (difficulty, rest) =>
      (card.plainEntryOf? input (String.ofList rest)).map (·.withDifficulty difficulty)

/-- Writes a number into a part. It tells whether the stored number changed. -/
def put (card : CocCard) (now : Instant) (part : CocPart) (key : String) (value : Int) :
    CocCard × Bool :=
  let old := (card.part part)[key]?
  ({ card.setPart part ((card.part part).insert key value) with
      core := card.core.record now key old value },
    old ≠ some value)

/-- The nearest number from zero to a limit. Without a limit there is only the lower bound. -/
def bounded (limit : Option Int) (value : Int) : Int :=
  match limit with
  | some limit => max 0 (min value (max limit 0))
  | none => max value 0

def setHitPoints (card : CocCard) (now : Instant) (value : Int) : CocCard × Bool :=
  card.put now .basic hitPoints (bounded card.maxHitPoints? value)

def setMagicPoints (card : CocCard) (now : Instant) (value : Int) : CocCard × Bool :=
  card.put now .basic magicPoints (bounded card.maxMagicPoints? value)

def setSanity (card : CocCard) (now : Instant) (value : Int) : CocCard × Bool :=
  card.put now .basic sanity (bounded (some card.maxSanity) value)

/-- Writes the knowledge of the mythos, which limits sanity. -/
def setMythos (card : CocCard) (now : Instant) (value : Int) : CocCard × Bool :=
  let (written, changed) := card.put now .skills mythos (bounded (some 99) value)
  match written.basic[sanity]? with
  | some current =>
    if written.maxSanity < current then
      let (lowered, alsoChanged) := written.setSanity now current
      (lowered, changed || alsoChanged)
    else (written, changed)
  | none => (written, changed)

/-- Writes a number under a name. It tells whether a stored number changed. -/
def setEntry (card : CocCard) (now : Instant) (input : String) (value : Int) : CocCard × Bool :=
  let key := synonyms.keyOf input
  if propNames.contains key then card.put now .props key value
  else if key = hitPoints then card.setHitPoints now value
  else if key = magicPoints then card.setMagicPoints now value
  else if key = sanity then card.setSanity now value
  else if key = mythos then card.setMythos now value
  else if key = luck then card.put now .basic luck value
  else card.put now .skills (card.skills.keyFor key) value

/-- The ability of a name. The damage bonus follows from the characteristics. -/
def ability? (card : CocCard) (input : String) : Option Ability :=
  match card.core.ability? input with
  | some ability => some ability
  | none =>
    if synonyms.keyOf input = damageBonus then
      card.bulk?.map fun bulk => ⟨input, damageBonus, damageBonusOf bulk, true⟩
    else none

/-- Marks a skill for a growth check. It tells whether the mark is new. -/
def markGrowth (card : CocCard) (now : Instant) (key : String) : CocCard × Bool :=
  if card.growthMarks.contains key then (card, false)
  else
    ({ card with
        growthMarks := card.growthMarks.insert key
        core := card.core.push now key (.growthMark true) }, true)

/-- Takes one mark away. It tells whether there was one. -/
def clearMark (card : CocCard) (now : Instant) (key : String) : CocCard × Bool :=
  if card.growthMarks.contains key then
    ({ card with
        growthMarks := card.growthMarks.erase key
        core := card.core.push now key (.growthMark false) }, true)
  else (card, false)

/-- Takes the marks of some skills away, or all marks if none are named. It tells whether there
was one. -/
def clearGrowth (card : CocCard) (now : Instant) (keys : List String) : CocCard × Bool :=
  let keys := if keys.isEmpty then card.growthMarks.toList else keys
  keys.foldl (fun (card, changed) key =>
    let (card, removed) := card.clearMark now key
    (card, changed || removed)) (card, false)

/-- The marked skills in their order. -/
def growthSkills (card : CocCard) : List String :=
  card.growthMarks.toList

/-- Brings a card of an older version up to date: resources once stood among the skills. -/
def migrateFrom (card : CocCard) (version : Nat) : CocCard :=
  if version < 2 then
    basicNames.foldl (fun card key =>
      match card.skills[key]? with
      | some value =>
        { card with skills := card.skills.erase key, basic := card.basic.insertIfNew key value }
      | none => card) card
  else card

def summary (card : CocCard) : String :=
  "\n".intercalate ([card.core.name ++ " (coc)"] ++
    labelledLine "属性" (valueEntries card.props) ++
    labelledLine "状态" (valueEntries card.basic) ++
    labelledLine "技能" (valueEntries card.skills) ++
    labelledLine "能力" card.core.abilities.toList)

end CocCard

end Tabletop
