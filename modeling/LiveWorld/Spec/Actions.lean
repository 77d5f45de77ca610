import LiveWorld.AgentDecision
import LiveWorld.Lib.Padding

/-!
# What an LLM can say

The grammar of responses. Numbers are those that `f32::from_str` documents, rounded to the nearest one of its format.
-/

namespace LiveWorld.Spec
open Padding

/-! ## Numbers -/

inductive Sign
  | absent
  | plus
  | minus
  deriving DecidableEq, Repr

namespace Sign

def text : Sign → List Char
  | .absent => []
  | .plus => ['+']
  | .minus => ['-']

def negative : Sign → Bool
  | .minus => true
  | _ => false

end Sign

def Digits (text : List Char) : Prop := ∀ c ∈ text, c.isDigit = true

structure Exponent where
  letter : Char
  sign : Sign
  digits : List Char

namespace Exponent

def text (self : Exponent) : List Char := self.letter :: (self.sign.text ++ self.digits)

def value (self : Exponent) : Int :=
  if self.sign.negative then -(digitsValue self.digits : Int) else digitsValue self.digits

structure Valid (exponent : Exponent) : Prop where
  letter : exponent.letter = 'e' ∨ exponent.letter = 'E'
  digits : Digits exponent.digits
  some : exponent.digits ≠ []

end Exponent

/-- `Digit+`, `Digit+ '.' Digit*` or `Digit* '.' Digit+`, and maybe an exponent. -/
structure Numeral where
  whole : List Char
  /-- after the point, if there is one -/
  fraction : Option (List Char)
  exponent : Option Exponent

namespace Numeral

def fractionText (self : Numeral) : List Char := (self.fraction.map ('.' :: ·)).getD []

def exponentText (self : Numeral) : List Char := (self.exponent.map Exponent.text).getD []

def text (self : Numeral) : List Char := self.whole ++ (self.fractionText ++ self.exponentText)

def decimals (self : Numeral) : List Char := self.fraction.getD []

def value (self : Numeral) : Rat :=
  digitsValue (self.whole ++ self.decimals) *
    (10 : Rat) ^ ((self.exponent.map Exponent.value).getD 0 - (self.decimals.length : Int))

structure Valid (numeral : Numeral) : Prop where
  whole : Digits numeral.whole
  decimals : Digits numeral.decimals
  some : numeral.whole ++ numeral.decimals ≠ []
  exponent : ∀ exponent ∈ numeral.exponent, exponent.Valid

end Numeral

def lower (text : List Char) : String := String.ofList (text.map Char.toLower)

inductive ReadsAs : List Char → Binary32 → Prop
  | number (sign : Sign) (numeral : Numeral) (valid : numeral.Valid) :
      ReadsAs (sign.text ++ numeral.text) (.round (if sign.negative then -numeral.value else numeral.value))
  | infinite (sign : Sign) (word : List Char) (named : lower word = "inf" ∨ lower word = "infinity") :
      ReadsAs (sign.text ++ word) (.infinite sign.negative)
  | nan (sign : Sign) (word : List Char) (named : lower word = "nan") : ReadsAs (sign.text ++ word) .nan

/-! ## Actions -/

abbrev Space : List Char → Prop := Blank isWhiteSpace

/-- A text that says an action, with any white space around it and around its numbers. -/
inductive Says : List Char → AgentAction → Prop
  | move {before first second third after xs ys : List Char} {x y : Binary32}
      (blanks : Space before ∧ Space first ∧ Space second ∧ Space third ∧ Space after)
      (reads : ReadsAs xs x) (reads' : ReadsAs ys y) :
      Says (before ++ ("MOVE ".toList ++ (first ++ xs ++ second) ++ ',' :: (third ++ ys)) ++ after) (.Move x y)
  | speak {before words after : List Char} (blank : Space before) (blank' : Space after) (some : words ≠ [])
      (ended : ∀ c ∈ words.getLast?, isWhiteSpace c = false) :
      Says (before ++ ("SPEAK ".toList ++ words) ++ after) (.Speak (String.ofList words))
  | attack {before between name after : List Char} (blank : Space before) (blank' : Space between) (blank'' : Space after)
      (some : name ≠ []) (tight : Tight isWhiteSpace name) :
      Says (before ++ ("ATTACK ".toList ++ (between ++ name)) ++ after) (.Attack (String.ofList name))

end LiveWorld.Spec
