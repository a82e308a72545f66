import DeviceGateway.Text.Digits
import DeviceGateway.Text.Unprintable

/-!
# Quoted text

A text between quotation marks, with escapes for what would not show. Lists and optional texts are
written around quoted texts.
-/

namespace DeviceGateway.Quoted

/-- The characters that have an escape of their own. -/
def escape? : Char → Option Char
  | '"' => some '"'
  | '\\' => some '\\'
  | '\n' => some 'n'
  | '\r' => some 'r'
  | '\t' => some 't'
  | '\x00' => some '0'
  | _ => none

def char (c : Char) : List Char :=
  match escape? c with
  | some e => ['\\', e]
  | none =>
    if Unprintable.contains c then '\\' :: 'u' :: '\x7b' :: (Digits.hex c.toNat).toList ++ ['\x7d']
    else [c]

def text (s : String) : String := String.ofList ('"' :: s.toList.flatMap char ++ ['"'])

def list (ss : List String) : String := "[" ++ ", ".intercalate (ss.map text) ++ "]"

def option : Option String → String
  | some s => "Some(" ++ text s ++ ")"
  | none => "None"

end DeviceGateway.Quoted
