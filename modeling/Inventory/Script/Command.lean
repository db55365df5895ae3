import Inventory.Script.Rule

set_option autoImplicit false

namespace Inventory

namespace Usage

def entries : List (List String × String) :=
  [(["a"], "add [amount] <item>..."),
   (["br"], "break <count> slots [with [amount|all] <item>... [from slot N]]"),
   (["bu"], "buy [amount] <item>..."),
   (["cl"], "close game"),
   (["co"], "cook [amount] <item>..."),
   (["d&"], "dnp [amount|all] <item>... [from slot N]"),
   (["dn"], "dnp [amount|all] <item>... [from slot N]"),
   (["dr"], "drop [amount|all] <item>... [from slot N]"),
   (["ea"], "eat [amount|all] <item>... [from slot N]"),
   (["en"], "enter eventide|tots"),
   (["eq"], "equip <item> [in slot N]"),
   (["exit", "g"], "exit game"),
   (["ex"], "exit eventide|tots"),
   (["g"], "get [amount] <item>..."),
   (["init", "ga"], "initialize gamedata [amount] <item>..."),
   (["i"], "initialize [amount] <item>..."),
   (["l"], "leave eventide|tots"),
   (["p"], "pick up [amount] <item>..."),
   (["rel"], "reload [save name]"),
   (["rem", "a"], "remove all <type>"),
   (["rem"], "remove [amount|all] <item>... [from slot N]"),
   (["save", "a"], "save as <save name>"),
   (["sa"], "save"),
   (["se"], "sell [amount|all] <item>... [from slot N]"),
   (["sh"], "shoot [amount] arrows"),
   (["sy"], "sync gamedata"),
   (["us"], "use <save name>"),
   (["unequip", "a"], "unequip all <type>"),
   (["u"], "unequip <item> [in slot N]"),
   (["w"], "write [<key>=<value>, ...] to <item> [in slot N]"),
   (["h"], "has [not] <value> <flag>"),
   (["!sw"], "!swap <i> <j>"),
   (["!so"], "!sort material"),
   (["!a"], "!add slot [amount] <item>... from slot N")]

def words (tokens : List Token) : List String :=
  match tokens.map fun token => Text.lower token.text with
  | "!" :: second :: rest => ("!" ++ second) :: rest
  | words => words

def headLength (tokens : List Token) : Nat :=
  match tokens with
  | [] => 0
  | [_] => 1
  | first :: _ => if first.text = "!" then 2 else 1

def fits : List String → List String → Bool
  | [], _ => true
  | _ :: _, [] => false
  | start :: starts, word :: words => Text.startsWith word start && fits starts words

def ofTokens? (tokens : List Token) : Option String :=
  (entries.find? fun entry => fits entry.1 (words tokens)).map Prod.snd

def message (usage : String) : String := "usage: " ++ usage

end Usage

structure Command where
  action : Action
  blocks : List Block
deriving DecidableEq

namespace Command

def ofSentence (resolver : Resolver) (tokens : List Token) (sentence : Sentence) : Command :=
  match sentence.meaning resolver with
  | .ok action => ⟨action, sentence.blocks⟩
  | .error complaints =>
    let usage := (Usage.ofTokens? tokens).toList.map Usage.message
    ⟨.hint .malformed (complaints.map Complaint.message ++ usage), sentence.blocks⟩

def blocksOf (tokens : List Token) (shade : Shade) : List Block :=
  tokens.map fun token => ⟨token.span, shade⟩

def fallback (tokens : List Token) : Command :=
  let isSuper := (tokens.head?.map Token.text) = some "!"
  let first := (Usage.words tokens).head?.getD ""
  match Usage.ofTokens? tokens with
  | some usage =>
    let head := Usage.headLength tokens
    let shade := if isSuper then .superCommand else .command
    ⟨.hint .malformed [Usage.message usage],
      blocksOf (tokens.take head) shade ++ blocksOf (tokens.drop head) .unknown⟩
  | none =>
    if isSuper then
      ⟨.hint .unknownSuperCommand ["Unknown super command: " ++ first], blocksOf tokens .unknown⟩
    else ⟨.hint .unknownCommand ["Unknown command: " ++ first], blocksOf tokens .unknown⟩

def ofTokens (resolver : Resolver) (tokens : List Token) : Command :=
  match Sentence.ofTokens? tokens with
  | some sentence => ofSentence resolver tokens sentence
  | none => fallback tokens

def trimmedSpan (line : List Char) : Span :=
  let stop := Text.byteLength (Text.trimEnd line)
  ⟨stop - Text.byteLength (Text.trim line), stop⟩

def ofLine (resolver : Resolver) (line : String) : Command :=
  match Text.trim line.toList with
  | [] => ⟨.nothing, []⟩
  | '#' :: _ => ⟨.nothing, [⟨trimmedSpan line.toList, .comment⟩]⟩
  | _ => ofTokens resolver (tokenize line)

def ofScript (resolver : Resolver) (script : String) : List Command :=
  (Text.lines script.toList).map fun line => ofLine resolver (String.ofList line)

end Command

def Shade.color : Shade → String
  | command => "\x1b[1;32m"
  | superCommand => "\x1b[1;35m"
  | keyword => "\x1b[32m"
  | itemName => "\x1b[36m"
  | amount => "\x1b[35m"
  | slotNumber => "\x1b[35m"
  | metaKey => "\x1b[34m"
  | metaValue => "\x1b[33m"
  | metaConst => "\x1b[1;33m"
  | delimiter => "\x1b[1m"
  | unknown => "\x1b[31m"
  | comment => "\x1b[2;3m"

namespace Paint

def reset : String := "\x1b[0m"

def bold : String := "\x1b[1m"

def boldCyan : String := "\x1b[1;36m"

def yellow : String := "\x1b[33m"

def red : String := "\x1b[31m"

def colored (color text : String) : String := color ++ text ++ reset

/-- The line from byte `done` on. A block is left out if it starts before that or does not fit the
line. -/
def paintFrom (line : List Char) (done : Nat) : List Block → List Char
  | [] => ((Span.mk done (Text.byteLength line)).slice? line).getD []
  | block :: rest =>
    if block.span.start < done then paintFrom line done rest
    else
      match (Span.mk done block.span.start).slice? line, block.span.slice? line with
      | some gap, some text =>
        gap ++ block.shade.color.toList ++ text ++ reset.toList ++
          paintFrom line block.span.stop rest
      | _, _ => paintFrom line done rest

def paint (line : String) (blocks : List Block) : String :=
  String.ofList (paintFrom line.toList 0 blocks)

def paintLine (line : String) : String :=
  paint line (Command.ofLine Resolver.nothing line).blocks

end Paint

end Inventory
