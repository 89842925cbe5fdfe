import FuturesDesk.Fault
import FuturesDesk.Order.Wire
import FuturesDesk.Text.Blank

/-!
# Client commands

A command asks for orders, each of one unit, assisted or not.
-/

namespace FuturesDesk

structure Command where
  code : String
  action : Action
  price : Float
  quantity : Int64
  option : Option Automation := none

namespace Command

/-- Why a command is refused when it is read. -/
inductive Flaw where
  | malformed (p : Json.Problem)
  | blankCode
  | quantity (q : Int64)
  | price (p : Float)
  | negativeBalance
  | noPeriod

namespace Flaw

def reason : Flaw → String
  | .malformed p => p.message
  | .blankCode => "instrumentCode is empty"
  | .quantity q => "quantity must be positive, got " ++ intText q.toInt
  | .price p => "invalid price " ++ plainText p
  | .negativeBalance => "balance offsets must not be negative"
  | .noPeriod => "time period must be positive"

def fault (f : Flaw) : Fault := .protocol f.reason

end Flaw

/-- The flaw of an automation option: what its kind uses has to make sense. -/
def optionFlaw? (a : Automation) : Option Flaw :=
  if a.kind.usesBalance && (a.balanceHigh < 0 || a.balanceLow < 0) then some .negativeBalance
  else if a.kind.usesTime && a.periodSecs = 0 then some .noPeriod
  else none

/-- The first flaw of a command. -/
def flaw? (c : Command) : Option Flaw :=
  if (trimBlanks c.code.toList).isEmpty then some .blankCode
  else if c.quantity ≤ 0 then some (.quantity c.quantity)
  else if !isFinite c.price || c.price < 0 then some (.price c.price)
  else c.option.bind optionFlaw?

open Json Json.Record

def wire : Record Command :=
  Command.mk <$> required "instrumentCode" .text <*> required "action" Action.decoder <*> required "price" .float <*>
    required "quantity" .int64 <*> defaulted "automationOption" (Decoder.nullable Automation.decoder) none

def decoder : Decoder Command := wire.decoder "ClientCommand"

def toJson (c : Command) : Json :=
  .record [("instrumentCode", .str c.code), ("action", c.action.toJson), ("price", .float c.price),
    ("quantity", .int c.quantity.toInt), ("automationOption", .optional Automation.toJson c.option)]

def ofText (text : String) : Except Flaw Command :=
  match decoder.run text with
  | .error p => .error (.malformed p)
  | .ok c =>
    match c.flaw? with
    | some f => .error f
    | none => .ok c

end Command

end FuturesDesk
