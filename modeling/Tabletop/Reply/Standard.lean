/-
This file holds the reply texts that need no plugin.
-/

import Tabletop.Reply.Text

namespace Tabletop.Reply

/-- The tag of a name. -/
def slot (name : String) : String :=
  "\x7b\x7b" ++ name ++ "\x7d\x7d"

/-- A section that is shown if the variable is set. -/
def whenSet (name body : String) : String :=
  slot ("#" ++ name) ++ body ++ slot ("/" ++ name)

/-- A section that is shown if the variable is not set. -/
def unlessSet (name body : String) : String :=
  slot ("^" ++ name) ++ body ++ slot ("/" ++ name)

/-- The keys and templates of the built-in texts. -/
def standardPairs : List (String × String) :=
  [("roll.start", slot "用户名" ++ " 🎲" ++ whenSet "描述" (" " ++ slot "描述")),
   ("roll.result", slot "掷骰输出"),
   ("roll.result.quiet", slot "掷骰结果"),
   ("roll.test", whenSet "判定" (" / " ++ slot "目标值" ++ " " ++ slot "判定")),
   ("roll.test.compound",
     slot "技能" ++ " " ++ slot "掷骰结果" ++ " / " ++ slot "目标值" ++ " " ++ slot "判定"),
   ("roll.dnd.line",
     slot "技能" ++ " " ++ slot "掷骰输出" ++
       whenSet "判定" (" / " ++ slot "目标值" ++ " " ++ slot "判定")),
   ("roll.inline.first",
     slot "用户名" ++ " 先是 🎲" ++ whenSet "描述" (" " ++ slot "描述") ++ " " ++ slot "掷骰输出"),
   ("roll.inline.middle", "然后 🎲" ++ whenSet "描述" (" " ++ slot "描述") ++ " " ++ slot "掷骰输出"),
   ("roll.inline.last", "最后 🎲" ++ whenSet "描述" (" " ++ slot "描述")),
   ("roll.hidden",
     slot "用户名" ++ " 在帷幕后面偷偷地 🎲" ++ whenSet "描述" (" " ++ slot "描述") ++ "，猜猜结果是什么"),
   ("roll.message", slot "用户名" ++ " 🎲 " ++ slot "消息"),
   ("roll.vs.prior",
     slot "对方用户名" ++ " 🎲" ++ whenSet "对方技能" (" " ++ slot "对方技能") ++ " " ++ slot "对方掷骰结果" ++
       whenSet "对方判定" (" / " ++ slot "对方目标值" ++ " " ++ slot "对方判定")),
   ("roll.vs.win", slot "用户名" ++ " 胜出！"),
   ("roll.vs.lose", slot "对方用户名" ++ " 胜出！"),
   ("roll.vs.draw", "双方平手"),
   ("roll.sc.first",
     slot "用户名" ++ " 🎲 理智检定 " ++ slot "掷骰输出" ++ " / " ++ slot "目标值" ++ " " ++ slot "判定"),
   ("roll.sc.second", slot "用户名" ++ " 🎲 理智损失 " ++ slot "掷骰输出"),
   ("roll.sc.third", slot "用户名" ++ " 🎲 理智变化：" ++ slot "旧值" ++ " → " ++ slot "新值"),
   ("roll.sc.unsupported", slot "用户名" ++ " 没有可用的理智值，请关联人物卡或在指令中写明"),
   ("roll.en.empty", slot "用户名" ++ " 没有可成长的技能"),
   ("roll.en.list", slot "用户名" ++ " 当前可成长的技能：" ++ slot "技能列表"),
   ("roll.en.mark", slot "用户名" ++ " 已标记成长：" ++ slot "技能列表"),
   ("roll.en.clear", slot "用户名" ++ " 已清除成长标记" ++ whenSet "技能列表" ("：" ++ slot "技能列表")),
   ("roll.en.start", slot "用户名" ++ " 🎲 技能成长"),
   ("roll.en.line",
     slot "技能" ++ " " ++ slot "掷骰结果" ++ " / " ++ slot "目标值" ++ " " ++
       whenSet "成长" ("成功，成长 " ++ slot "成长值" ++ "，" ++ slot "旧值" ++ " → " ++ slot "新值") ++
       unlessSet "成长" "失败"),
   ("roll.ri.line", slot "人物名" ++ " 🎲 先攻 " ++ slot "掷骰输出"),
   ("roll.ri.list", "当前先攻列表："),
   ("roll.ri.item", slot "序号" ++ ". " ++ slot "人物名" ++ " " ++ slot "先攻值"),
   ("roll.ri.empty", "当前先攻列表为空"),
   ("roll.ri.clear", slot "用户名" ++ " 已清空先攻列表"),
   ("roll.ri.del", slot "用户名" ++ " 删除先攻：" ++ slot "人物名"),
   ("roll.st.prompt", slot "用户名" ++ "(" ++ slot "人物卡名" ++ ") 设置："),
   ("roll.st.line",
     slot "条目" ++ " " ++ whenSet "掷骰输出" (slot "掷骰输出" ++ "，") ++
       whenSet "旧值" (slot "旧值" ++ " → ") ++ slot "新值"),
   ("roll.st.ability", slot "条目" ++ " = " ++ slot "表达式"),
   ("roll.st.show", slot "用户名" ++ "(" ++ slot "人物卡名" ++ ")：\n" ++ slot "条目"),
   ("roll.st.unsupported", slot "用户名" ++ " 的指令无法识别要设置的条目"),
   ("roll.ds.start", slot "用户名" ++ " 🎲 死亡豁免 " ++ slot "掷骰输出"),
   ("roll.ds.best", "大成功！恢复 1 点生命值并清空死亡豁免"),
   ("roll.ds.worst", "大失败！死亡豁免失败 +2"),
   ("roll.ds.success", "成功，死亡豁免成功 +1"),
   ("roll.ds.failure", "失败，死亡豁免失败 +1"),
   ("roll.ds.tally", "当前 成功 " ++ slot "成功次数" ++ " / 失败 " ++ slot "失败次数"),
   ("roll.ds.stable", "已成功三次，伤势稳定"),
   ("roll.ds.dead", "已失败三次，角色死亡"),
   ("roll.ds.unsupported", slot "用户名" ++ " 没有关联 DND 人物卡，无法进行死亡豁免"),
   ("nn.show", slot "用户名" ++ " 当前关联人物卡：" ++ slot "人物卡名"),
   ("nn.show.empty", slot "用户名" ++ " 没有关联人物卡"),
   ("nn.link", slot "用户名" ++ " 已关联人物卡：" ++ slot "人物卡名"),
   ("nn.clear", slot "用户名" ++ " 已取消关联人物卡"),
   ("card.empty", slot "用户名" ++ " 没有关联人物卡"),
   ("card.notfound", "没有找到名字包含 " ++ slot "关键词" ++ " 的人物卡"),
   ("card.search", "找到多张人物卡：" ++ slot "人物卡列表" ++ "，请输入更精确的名称"),
   ("card.nopermission", slot "用户名" ++ " 没有操作人物卡 " ++ slot "人物卡名" ++ " 的权限"),
   ("card.exist", "人物卡 " ++ slot "人物卡名" ++ " 已存在"),
   ("pc.new", slot "用户名" ++ " 已创建并关联人物卡：" ++ slot "人物卡名"),
   ("pc.del", slot "用户名" ++ " 已删除人物卡：" ++ slot "人物卡名"),
   ("pc.list", "当前人物卡：" ++ slot "人物卡列表"),
   ("test.worst", "大失败"),
   ("test.failure", "失败"),
   ("test.success", "成功"),
   ("test.hard", "困难成功"),
   ("test.extreme", "极难成功"),
   ("test.best", "大成功")]

/-- The built-in texts. -/
def standardTexts : TextSet where
  id := "default"
  name := "默认文案"
  description := "内置的默认回复文案"
  defaultEnabled := true
  texts := .ofPairs (standardPairs.map fun (key, text) => (key, [⟨text, 1⟩]))

end Tabletop.Reply
