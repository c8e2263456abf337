import Mathlib.Logic.Basic

/-! JSON texts, as a scanner that reads them byte by byte and keeps the objects and
arrays that are open on a stack. -/

set_option autoImplicit false

namespace Json

/-- What an open object or array waits for. -/
inductive Place where
  | objectKey
  | objectValue
  | arrayValue
  deriving DecidableEq

/-- What the next byte is read as. -/
inductive Expects where
  | value
  | valueOrEnd
  | keyOrEnd
  | key
  | endOfValue
  | endOfText
  | string
  | escape
  /-- So many hexadecimal digits of an escaped character are to come after the next. -/
  | hex (more : Nat)
  | literal (rest : List Char)
  | minus
  | digits
  | integer
  | dot
  | fraction
  | exponent
  | exponentSign
  | exponentDigits
  deriving DecidableEq

structure Scanner where
  expects : Expects
  opened : List Place
  deriving DecidableEq

def Scanner.start : Scanner := ⟨.value, []⟩

def maxNestingDepth : Nat := 10000

def isSpace (c : Char) : Bool := c = ' ' ∨ c = '\t' ∨ c = '\r' ∨ c = '\n'

def isHex (c : Char) : Bool := c.isDigit ∨ ('a' ≤ c ∧ c ≤ 'f') ∨ ('A' ≤ c ∧ c ≤ 'F')

namespace Scanner

def expecting (expects : Expects) (s : Scanner) : Option Scanner := some { s with expects }

def push (place : Place) (expects : Expects) (s : Scanner) : Option Scanner :=
  if s.opened.length < maxNestingDepth then some ⟨expects, place :: s.opened⟩ else none

def pop (rest : List Place) : Option Scanner :=
  some ⟨if rest.isEmpty then .endOfText else .endOfValue, rest⟩

/-- The byte after a value. -/
def endValue (c : Char) (s : Scanner) : Option Scanner :=
  match s.opened with
  | [] => if isSpace c then s.expecting .endOfText else none
  | place :: rest =>
    if isSpace c then s.expecting .endOfValue
    else
      match place, c with
      | .objectKey, ':' => some ⟨.value, .objectValue :: rest⟩
      | .objectValue, ',' => some ⟨.key, .objectKey :: rest⟩
      | .objectValue, '}' => pop rest
      | .arrayValue, ',' => some ⟨.value, .arrayValue :: rest⟩
      | .arrayValue, ']' => pop rest
      | _, _ => none

def beginValue (c : Char) (s : Scanner) : Option Scanner :=
  if isSpace c then some s
  else
    match c with
    | '{' => s.push .objectKey .keyOrEnd
    | '[' => s.push .arrayValue .valueOrEnd
    | '"' => s.expecting .string
    | '-' => s.expecting .minus
    | '0' => s.expecting .integer
    | 't' => s.expecting (.literal ['r', 'u', 'e'])
    | 'f' => s.expecting (.literal ['a', 'l', 's', 'e'])
    | 'n' => s.expecting (.literal ['u', 'l', 'l'])
    | c => if c.isDigit then s.expecting .digits else none

def beginString (c : Char) (s : Scanner) : Option Scanner :=
  if isSpace c then some s else if c = '"' then s.expecting .string else none

/-- The byte after an integer that takes no more digits. -/
def afterInteger (c : Char) (s : Scanner) : Option Scanner :=
  if c = '.' then s.expecting .dot else if c = 'e' ∨ c = 'E' then s.expecting .exponent else s.endValue c

def step (s : Scanner) (c : Char) : Option Scanner :=
  match s.expects with
  | .value => s.beginValue c
  | .valueOrEnd =>
    if isSpace c then some s else if c = ']' then s.endValue c else s.beginValue c
  | .keyOrEnd =>
    if isSpace c then some s else if c = '}' then pop s.opened.tail else s.beginString c
  | .key => s.beginString c
  | .endOfValue => s.endValue c
  | .endOfText => if isSpace c then some s else none
  | .string =>
    if c = '"' then s.expecting .endOfValue
    else if c = '\\' then s.expecting .escape
    else if c < ' ' then none
    else some s
  | .escape =>
    if c ∈ ['b', 'f', 'n', 'r', 't', '\\', '/', '"'] then s.expecting .string
    else if c = 'u' then s.expecting (.hex 3)
    else none
  | .hex more =>
    if isHex c = false then none
    else
      match more with
      | 0 => s.expecting .string
      | more + 1 => s.expecting (.hex more)
  | .literal rest =>
    match rest with
    | [] => s.endValue c
    | next :: rest =>
      if c ≠ next then none else s.expecting (if rest.isEmpty then .endOfValue else .literal rest)
  | .minus =>
    if c = '0' then s.expecting .integer else if c.isDigit then s.expecting .digits else none
  | .digits => if c.isDigit then some s else s.afterInteger c
  | .integer => s.afterInteger c
  | .dot => if c.isDigit then s.expecting .fraction else none
  | .fraction =>
    if c.isDigit then some s else if c = 'e' ∨ c = 'E' then s.expecting .exponent else s.endValue c
  | .exponent =>
    if c = '+' ∨ c = '-' then s.expecting .exponentSign
    else if c.isDigit then s.expecting .exponentDigits
    else none
  | .exponentSign => if c.isDigit then s.expecting .exponentDigits else none
  | .exponentDigits => if c.isDigit then some s else s.endValue c

/-- The end of the text ends a value as a blank does. -/
def complete (s : Scanner) : Bool :=
  s.expects = .endOfText ∨ (s.step ' ').any fun after => after.expects = .endOfText

def scan (bytes : List UInt8) (s : Scanner) : Option Scanner :=
  bytes.foldlM (fun s byte => s.step (Char.ofNat byte.toNat)) s

end Scanner

def valid (bytes : List UInt8) : Bool := (Scanner.start.scan bytes).any (·.complete)

def bytes (text : String) : List UInt8 := text.toList.map fun c => c.toNat.toUInt8

example : valid (bytes "\x7b\"on\": [true, -2.5e3, null]\x7d ") = true := by decide

example : valid (bytes "0") = true ∧ valid (bytes "\"\\u00fF\"") = true := by decide

example : valid (bytes "\x7b\"on\": 01\x7d") = false ∧ valid (bytes "[1,]") = false ∧ valid (bytes "") = false := by decide

end Json
