/-
This file defines the cards of Dungeons and Dragons.
-/

import Std.Data.ExtTreeSet
import Tabletop.Card.Core

namespace Tabletop

open Number

/-- The death saving throws so far. -/
structure DeathSaving where
  success : Nat
  failure : Nat
deriving DecidableEq, Repr

/-- The spell slots of one level: those left, and those after a rest. -/
structure SpellSlot where
  value : Int
  max : Int
deriving DecidableEq, Repr

/-- The parts of a card that hold numbers. -/
inductive DndPart where
  | props
  | skills
  | basic
  | items
deriving DecidableEq, Repr

def DndPart.kind : DndPart → EntryKind
  | .props => .props
  | .skills => .skills
  | .basic => .basic
  | .items => .skills

structure DndCard where
  core : CardCore
  props : Values
  /-- Zero for an untrained skill, one for a proficient one, two for expertise. -/
  skills : Values
  basic : Values
  items : Values
  deathSaving : DeathSaving
  spellSlots : Table SpellSlot
  /-- The attributes whose saving throws are proficient. -/
  savingProficiency : Std.ExtTreeSet String
deriving DecidableEq

/-- The modifier of an attribute: half of what it is above ten, rounded down. -/
def attributeModifier (score : Int) : Int :=
  (wrap (score - 10)).fdiv 2

namespace DndCard

/-- The attributes. -/
def propNames : List String :=
  ["力量", "敏捷", "体质", "智力", "感知", "魅力"]

/-- The skills with their attributes. -/
def skillProps : List (String × String) :=
  [("运动", "力量"), ("体操", "敏捷"), ("巧手", "敏捷"), ("隐匿", "敏捷"), ("奥秘", "智力"), ("历史", "智力"),
   ("调查", "智力"), ("自然", "智力"), ("宗教", "智力"), ("驯兽", "感知"), ("洞悉", "感知"), ("医药", "感知"),
   ("察觉", "感知"), ("求生", "感知"), ("欺瞒", "魅力"), ("威吓", "魅力"), ("表演", "魅力"), ("游说", "魅力")]

def hitPoints : String := "生命值"

def maxHitPoints : String := "最大生命值"

def level : String := "等级"

def armorClass : String := "护甲等级"

def proficiency : String := "熟练加值"

def synonyms : Synonyms :=
  [("str", "力量"), ("dex", "敏捷"), ("con", "体质"), ("int", "智力"), ("wis", "感知"), ("cha", "魅力"),
   ("hp", "生命值"), ("maxhp", "最大生命值"), ("hpmax", "最大生命值"), ("lv", "等级"), ("level", "等级"),
   ("ac", "护甲等级"), ("athletics", "运动"), ("acrobatics", "体操"), ("特技", "体操"),
   ("sleight", "巧手"), ("妙手", "巧手"), ("stealth", "隐匿"), ("隐蔽", "隐匿"), ("arcana", "奥秘"),
   ("history", "历史"), ("investigation", "调查"), ("nature", "自然"), ("religion", "宗教"),
   ("animal", "驯兽"), ("insight", "洞悉"), ("medicine", "医药"), ("perception", "察觉"),
   ("侦查", "察觉"), ("survival", "求生"), ("deception", "欺瞒"), ("欺骗", "欺瞒"),
   ("intimidation", "威吓"), ("恐吓", "威吓"), ("performance", "表演"), ("persuasion", "游说"),
   ("说服", "游说"), ("pb", "熟练加值")]

def new (name : String) (now : Instant) : DndCard :=
  ⟨.new name now, ∅, ∅, ∅, ∅, ⟨0, 0⟩, ∅, ∅⟩

def part (card : DndCard) : DndPart → Values
  | .props => card.props
  | .skills => card.skills
  | .basic => card.basic
  | .items => card.items

def setPart (card : DndCard) (part : DndPart) (values : Values) : DndCard :=
  match part with
  | .props => { card with props := values }
  | .skills => { card with skills := values }
  | .basic => { card with basic := values }
  | .items => { card with items := values }

def isSkill (key : String) : Bool :=
  skillProps.any (·.1 == key)

/-- The bonus for training, which grows with every fourth level. -/
def proficiencyBonus (card : DndCard) : Int :=
  2 + (max (card.basic.getD level 1) 1 - 1).tdiv 4

/-- The modifier of an attribute of the card. -/
def modifierOf (card : DndCard) (prop : String) : Int :=
  (card.props[prop]?.map attributeModifier).getD 0

/-- The attribute behind a skill or an attribute. -/
def governingProp? (input : String) : Option String :=
  let key := synonyms.keyOf input
  (propNames.find? (· == key)).or ((skillProps.find? (·.1 == key)).map (·.2))

/-- Replaces the death saving throws. -/
def setDeathSaving (card : DndCard) (now : Instant) (saving : DeathSaving) : DndCard :=
  if card.deathSaving = saving then card
  else { card with deathSaving := saving, core := { card.core with lastModified := now } }

/-- The attribute in front of a postfix. -/
def splitPostfix? (key : String) : Option (String × Postfix) :=
  match Text.before? "调整".toList key.toList with
  | some prop => some (String.ofList prop, .modifier)
  | none => (Text.before? "豁免".toList key.toList).map fun prop => (String.ofList prop, .saving)

/-- The level of a key for spell slots. -/
def spellLevel? (key : String) : Option String :=
  match key.toList with
  | [digit, '环'] => if '1' ≤ digit ∧ digit ≤ '9' then some (String.ofList [digit]) else none
  | _ => none

/-- The entry of a name in one part of the card. -/
def stored? (card : DndCard) (input key : String) (part : DndPart) : Option Entry :=
  ((card.part part).lookup? key).map fun (key, value) => .stored input key value part.kind

/-- The bonus of a saving throw. -/
def savingBonus (card : DndCard) (prop : String) (score : Int) : Int :=
  if card.savingProficiency.contains prop then
    wrap (attributeModifier score + card.proficiencyBonus)
  else attributeModifier score

/-- The entry of an attribute with a postfix. -/
def postfixEntryOf? (card : DndCard) (input key : String) : Option Entry := do
  let (name, kind) ← splitPostfix? key
  let prop := synonyms.keyOf name
  let score ← card.props[prop]?
  let value := match kind with
    | .modifier => attributeModifier score
    | .saving => card.savingBonus prop score
  return { Entry.computed input key value with modifier := .ofPostfix kind }

/-- The entry of a skill: its attribute's modifier and its training. -/
def skillEntryOf? (card : DndCard) (input key : String) : Option Entry :=
  (skillProps.find? (·.1 == key)).map fun (skill, prop) =>
    let training := card.skills.getD skill 0
    let value := wrap (card.modifierOf prop + wrap (training * card.proficiencyBonus))
    { Entry.stored input skill value .skills with baseValue := training }

def proficiencyEntryOf? (card : DndCard) (input key : String) : Option Entry :=
  if key = proficiency then some (.computed input key card.proficiencyBonus) else none

/-- The entry of the spell slots of a level. -/
def slotEntryOf? (card : DndCard) (input key : String) : Option Entry := do
  let slot ← card.spellSlots[← spellLevel? key]?
  return { Entry.stored input key slot.value .basic with baseValue := slot.max }

/-- The entry of a name. -/
def entryOf? (card : DndCard) (input : String) : Option Entry :=
  let key := synonyms.keyOf input
  (card.stored? input key .items).or <|
    (card.stored? input key .props).or <|
      (card.skillEntryOf? input key).or <|
        (card.stored? input key .basic).or <|
          (card.postfixEntryOf? input key).or <|
            (card.proficiencyEntryOf? input key).or (card.slotEntryOf? input key)

/-- Writes a number into a part. It tells whether the stored number changed. -/
def put (card : DndCard) (now : Instant) (part : DndPart) (key : String) (value : Int) :
    DndCard × Bool :=
  let old := (card.part part)[key]?
  ({ card.setPart part ((card.part part).insert key value) with
      core := card.core.record now key old value },
    old ≠ some value)

/-- The attribute whose saving throw a key names. -/
def savingProp? (key : String) : Option String :=
  match splitPostfix? key with
  | some (name, .saving) =>
    let prop := synonyms.keyOf name
    if propNames.contains prop then some prop else none
  | _ => none

/-- Sets whether a saving throw is proficient. It tells whether that changed. -/
def setSaving (card : DndCard) (now : Instant) (key prop : String) (proficient : Bool) :
    DndCard × Bool :=
  let had := card.savingProficiency.contains prop
  if had = proficient then (card, false)
  else
    let old : Int := if had then 1 else 0
    let set := if proficient then card.savingProficiency.insert prop
      else card.savingProficiency.erase prop
    ({ card with savingProficiency := set, core := card.core.record now key (some old) (1 - old) },
      true)

def setHitPoints (card : DndCard) (now : Instant) (value : Int) : DndCard × Bool :=
  let value := match card.basic[maxHitPoints]? with
    | some limit => max 0 (min value (max limit 0))
    | none => max value 0
  card.put now .basic hitPoints value

/-- Writes the spell slots that are left. There is no room below a negative maximum. -/
def setSlot (card : DndCard) (now : Instant) (key slotLevel : String) (slot : SpellSlot)
    (value : Int) : Except Fault (DndCard × Bool) :=
  if slot.max < 0 then .error .invertedBounds
  else
    let value := max 0 (min value slot.max)
    .ok ({ card with
            spellSlots := card.spellSlots.insert slotLevel { slot with value := value }
            core := card.core.record now key (some slot.value) value },
      slot.value ≠ value)

/-- Writes a number under a name without any rule of its own. -/
def setItem (card : DndCard) (now : Instant) (key : String) (value : Int) : DndCard × Bool :=
  card.put now .items (card.items.keyFor key) value

/-- Writes a number under a name. It tells whether a stored number changed. -/
def setEntry (card : DndCard) (now : Instant) (input : String) (value : Int) :
    Except Fault (DndCard × Bool) :=
  let key := synonyms.keyOf input
  if propNames.contains key then .ok (card.put now .props key value)
  else if isSkill key then .ok (card.put now .skills key (max 0 (min value 2)))
  else
    match savingProp? key with
    | some prop => .ok (card.setSaving now key prop (0 < value))
    | none =>
      if key = hitPoints then .ok (card.setHitPoints now value)
      else if [maxHitPoints, level, armorClass].contains key then .ok (card.put now .basic key value)
      else
        match spellLevel? key with
        | none => .ok (card.setItem now key value)
        | some slotLevel =>
          match card.spellSlots[slotLevel]? with
          | some slot => card.setSlot now key slotLevel slot value
          | none => .ok (card.setItem now key value)

/-- Brings a card of an older version up to date: it had no death saving throws. -/
def migrateFrom (card : DndCard) (version : Nat) : DndCard :=
  if version < 2 then { card with deathSaving := ⟨0, 0⟩ } else card

/-- The trained skills with the values that tests count. -/
def trainedSkills (card : DndCard) : List (String × String) :=
  (card.skills.toList.filter (0 < ·.2)).map fun (key, _) =>
    (key, intText (((card.entryOf? key).map (·.value)).getD 0))

def summary (card : DndCard) : String :=
  let saving := card.deathSaving
  "\n".intercalate ([card.core.name ++ " (dnd)"] ++
    labelledLine "属性" (valueEntries card.props) ++
    labelledLine "状态" (valueEntries card.basic) ++
    labelledLine "熟练技能" card.trainedSkills ++
    labelledLine "其他" (valueEntries card.items) ++
    (if saving.success = 0 ∧ saving.failure = 0 then []
      else ["死亡豁免: 成功 " ++ natText saving.success ++ " 失败 " ++ natText saving.failure]))

end DndCard

end Tabletop
